/-
Conditions as they are written.

The text of a condition is searched over and over: for `&&`, between those for `||`, and
between those for six relations in a fixed order.  No search knows of the others, so a mark
might be found that nobody wrote, inside another mark or across the border of two parts.

It is not if the operands are free of the characters that marks are made of.  Searching for a
mark is then a matter of counting, because a text does not spell what has more of some
character than the text has, and all these characters come from the marks that were written.
Counting fails for `!=` alone, as an exclamation mark may stand in an operand; it would be
found if an operand ended in one and an equals sign followed.

The main statement is what a written condition comes to, and with which faults.
-/
import TerminalConfig.Proofs.Template.Refusal
import TerminalConfig.Proofs.Text.Split

namespace TerminalConfig

open Text

/-! ### Writing -/

/-- The characters that the marks of a condition are made of, save for the exclamation mark. -/
def Condition.markChars : List Char :=
  ['&', '|', '<', '>', '=']

/-- The operands that can be written. -/
def Operand.IsPlain (operand : List Char) : Prop :=
  ∀ c ∈ operand, c ∉ Condition.markChars

instance : DecidablePred Operand.IsPlain := fun operand =>
  List.decidableBAll (· ∉ Condition.markChars) operand

namespace Comparison

/-- A comparison as it is written. -/
def written : Comparison → List Char
  | .lone operand => operand
  | .related relation left right => left ++ (relation.spelling ++ right)

/-- The comparisons that can be written.  An exclamation mark and the equals sign behind it
would be taken for a relation. -/
def Writable : Comparison → Prop
  | .lone operand => Operand.IsPlain operand
  | .related _ left right =>
    Operand.IsPlain left ∧ Operand.IsPlain right ∧ left.getLast? ≠ some '!'

instance : DecidablePred Writable
  | .lone operand => inferInstanceAs (Decidable (Operand.IsPlain operand))
  | .related _ left right => inferInstanceAs
      (Decidable (Operand.IsPlain left ∧ Operand.IsPlain right ∧ left.getLast? ≠ some '!'))

end Comparison

namespace Condition

/-- Alternatives as they are written. -/
def writtenAlternatives (alternatives : List Comparison) : List Char :=
  ['|', '|'].intercalate (alternatives.map Comparison.written)

/-- A condition as it is written. -/
def written (condition : Condition) : List Char :=
  ['&', '&'].intercalate (condition.map writtenAlternatives)

/-- The conditions that can be written.  An operand may be empty, but there has to be one. -/
def Writable (condition : Condition) : Prop :=
  condition ≠ [] ∧
    ∀ alternatives ∈ condition, alternatives ≠ [] ∧ ∀ c ∈ alternatives, c.Writable

instance : DecidablePred Writable := fun condition =>
  inferInstanceAs (Decidable (condition ≠ [] ∧
    ∀ alternatives ∈ condition, alternatives ≠ [] ∧ ∀ c ∈ alternatives, c.Writable))

end Condition

/-! ### Finding the relation -/

namespace Comparison

variable {relation : Relation} {relations earlier : List Relation} {left right cs : List Char}

/-- A spelling has more of some character than there are among the marks. -/
def exceeds (spelling marks : List Char) : Bool :=
  Condition.markChars.any fun d => marks.count d < spelling.count d

/-- A text does not spell what has more of some character than its marks. -/
theorem not_infix_of_exceeds {spelling marks : List Char} (h : exceeds spelling marks = true)
    (hcs : ∀ d ∈ Condition.markChars, cs.count d = marks.count d) : ¬spelling <:+: cs := by
  intro hspelled
  obtain ⟨d, hd, hmore⟩ := List.any_eq_true.mp h
  have hle := hspelled.sublist.count_le d
  rw [hcs d hd] at hle
  exact absurd (of_decide_eq_true hmore) (Nat.not_lt.mpr hle)

theorem count_of_isPlain {d : Char} (hd : d ∈ Condition.markChars) (h : Operand.IsPlain cs) :
    cs.count d = 0 :=
  List.count_eq_zero.mpr fun hmem => h d hmem hd

/-- The operands add nothing to what a relation has of marks. -/
theorem count_related {d : Char} (hd : d ∈ Condition.markChars) (hleft : Operand.IsPlain left)
    (hright : Operand.IsPlain right) :
    (left ++ (relation.spelling ++ right)).count d = relation.spelling.count d := by
  rw [List.count_append, List.count_append, count_of_isPlain hd hleft, count_of_isPlain hd hright,
    Nat.zero_add, Nat.add_zero]

/-- A relation is found where it was written. -/
theorem cut?_related (hleft : Operand.IsPlain left) (relation : Relation) (right : List Char) :
    cut? relation.spelling (left ++ (relation.spelling ++ right)) = some (left, right) := by
  have hlast : exceeds relation.spelling relation.spelling.dropLast = true := by
    cases relation <;> decide
  refine cut?_append (by cases relation <;> decide) (not_infix_of_exceeds hlast ?_) right
  intro d hd
  rw [List.count_append, count_of_isPlain hd hleft, Nat.zero_add]

/-- The first of two equals signs is not taken for the end of `!=`. -/
theorem not_infix_differs (hleft : Operand.IsPlain left) (hright : Operand.IsPlain right)
    (hlast : left.getLast? ≠ some '!') :
    ¬Relation.differs.spelling <:+: left ++ (Relation.equals.spelling ++ right) := by
  induction left with
  | nil =>
      have hrest : ¬['!', '='] <:+: right :=
        not_infix_of_exceeds (by decide : exceeds ['!', '='] [] = true)
          fun d hd => count_of_isPlain hd hright
      simp [Relation.spelling, List.infix_cons_iff, hrest]
  | cons c left ih =>
      obtain ⟨-, hleft⟩ := List.forall_mem_cons.mp hleft
      rw [List.cons_append, List.infix_cons_iff, not_or]
      cases left with
      | nil =>
          have hc : c ≠ '!' := by simpa using hlast
          exact ⟨by simp [Relation.spelling, hc.symm], ih hleft (by simp)⟩
      | cons d left =>
          have hd : d ≠ '=' := by
            rintro rfl
            exact hleft _ List.mem_cons_self (by decide)
          exact ⟨by simp [Relation.spelling, hd.symm], ih hleft (by simpa using hlast)⟩

/-- Relations that do not occur are passed over. -/
theorem ofCharsBy_append (h : ∀ other ∈ earlier, ¬other.spelling <:+: cs) :
    ofCharsBy cs (earlier ++ relations) = ofCharsBy cs relations := by
  induction earlier with
  | nil => rfl
  | cons other earlier ih =>
      obtain ⟨hother, hearlier⟩ := List.forall_mem_cons.mp h
      rw [List.cons_append, ofCharsBy, cut?_eq_none hother]
      exact ih hearlier

/-- A relation that is looked for before another has more of some mark than that, but for `!=`
before `==`. -/
theorem exists_earlier (relation : Relation) :
    ∃ earlier later, [.atMost, .atLeast, .below, .above, .differs, .equals] =
        earlier ++ relation :: later ∧
      ∀ other ∈ earlier, other = .differs ∧ relation = .equals ∨
        exceeds other.spelling relation.spelling = true := by
  cases relation with
  | atMost => exact ⟨[], _, rfl, by decide⟩
  | atLeast => exact ⟨[.atMost], _, rfl, by decide⟩
  | below => exact ⟨[.atMost, .atLeast], _, rfl, by decide⟩
  | above => exact ⟨[.atMost, .atLeast, .below], _, rfl, by decide⟩
  | differs => exact ⟨[.atMost, .atLeast, .below, .above], _, rfl, by decide⟩
  | equals => exact ⟨[.atMost, .atLeast, .below, .above, .differs], _, rfl, by decide⟩

/-- **A comparison is read as it was written.** -/
theorem ofChars_written {c : Comparison} (h : c.Writable) : ofChars c.written = c := by
  cases c with
  | lone operand =>
      have hnone : ∀ other ∈ [Relation.atMost, .atLeast, .below, .above, .differs, .equals],
          ¬other.spelling <:+: operand := by
        intro other _
        have hmark : exceeds other.spelling [] = true := by cases other <;> decide
        exact not_infix_of_exceeds hmark fun d hd => count_of_isPlain hd h
      have hread : ofCharsBy operand (_ ++ []) = .lone operand := ofCharsBy_append hnone
      rwa [List.append_nil] at hread
  | related relation left right =>
      obtain ⟨hleft, hright, hlast⟩ := h
      obtain ⟨earlier, later, horder, hearlier⟩ := exists_earlier relation
      have hnone : ∀ other ∈ earlier, ¬other.spelling <:+: left ++ (relation.spelling ++ right) := by
        intro other hother
        obtain ⟨rfl, rfl⟩ | hmore := hearlier other hother
        · exact not_infix_differs hleft hright hlast
        · exact not_infix_of_exceeds hmore fun d hd => count_related hd hleft hright
      rw [ofChars, written, horder, ofCharsBy_append hnone, ofCharsBy, cut?_related hleft]

end Comparison

/-! ### Finding the parts -/

/-- A mark that no relation has is in no comparison. -/
theorem Comparison.not_mem_written {d : Char} (hd : d ∈ Condition.markChars)
    (hspelling : ∀ relation : Relation, d ∉ relation.spelling) {c : Comparison} (h : c.Writable) :
    d ∉ c.written := by
  cases c with
  | lone operand => exact fun hmem => h d hmem hd
  | related relation left right =>
      obtain ⟨hleft, hright, -⟩ := h
      simp only [written, List.mem_append, not_or]
      exact ⟨fun hmem => hleft d hmem hd, hspelling relation, fun hmem => hright d hmem hd⟩

namespace Condition

/-- **A condition is read as it was written.** -/
theorem ofChars_written {condition : Condition} (h : condition.Writable) :
    ofChars condition.written = condition := by
  obtain ⟨hne, hparts⟩ := h
  have hand : ∀ part ∈ condition.map writtenAlternatives, '&' ∉ part := by
    intro part hpart hmem
    obtain ⟨alternatives, halternatives, rfl⟩ := List.mem_map.mp hpart
    obtain hsep | ⟨written, hwritten, hc⟩ := mem_of_mem_intercalate hmem
    · exact absurd hsep (by decide)
    · obtain ⟨c, hc', rfl⟩ := List.mem_map.mp hwritten
      exact Comparison.not_mem_written (by decide) (by rintro (_ | _) <;> decide)
        ((hparts alternatives halternatives).2 c hc') hc
  have hor : ∀ alternatives ∈ condition,
      (splitDoubled '|' (writtenAlternatives alternatives)).map Comparison.ofChars =
        alternatives := by
    intro alternatives halternatives
    obtain ⟨hsome, hwritable⟩ := hparts alternatives halternatives
    have hbar : ∀ part ∈ alternatives.map Comparison.written, '|' ∉ part := by
      intro part hpart
      obtain ⟨c, hc, rfl⟩ := List.mem_map.mp hpart
      exact Comparison.not_mem_written (by decide) (by rintro (_ | _) <;> decide) (hwritable c hc)
    rw [writtenAlternatives, splitDoubled_intercalate (by simpa using hsome) hbar, List.map_map]
    exact (List.map_congr_left fun c hc => Comparison.ofChars_written (hwritable c hc)).trans
      (List.map_id _)
  rw [ofChars, written, splitDoubled_intercalate (by simpa using hne) hand, List.map_map]
  exact (List.map_congr_left hor).trans (List.map_id _)

end Condition

/-! ### What a written condition comes to -/

/-- An operand is at fault if it names a text variable. -/
theorem Operand.incident?_eq_fault_iff {scope : Scope} {operand : List Char} {fault : Fault} :
    incident? scope operand = some (.fault fault) ↔
      let name := String.ofList (plain operand).2
      word? name = none ∧ (∃ v s, scope.find? name = some v ∧ v.value = .text s) ∧
        fault = .textOperand name := by
  unfold incident?
  dsimp only
  generalize String.ofList (plain operand).2 = name
  cases word? name with
  | some x => simp
  | none =>
      cases scope.find? name with
      | none => simp
      | some v => cases hv : v.value <;> simp [hv, Value.number?, eq_comm]

namespace Condition

/-- **A written condition asks of each of its parts that one alternative holds.**  Let it be
looked at in any scope, with any fault before.

  * If no numeral is refused, it comes to its truth: all parts have an alternative that holds.
    The fault after it is the last one of the operands that were looked at, and the one before
    if they had none.  Nothing is looked at behind an alternative that holds, or behind a part
    that does not.
  * It is stopped exactly by the first numeral that is refused among those operands.
  * What an operand is worth here is what evaluating it comes to, with its own incident.
  * An operand is at fault exactly if it names a text variable. -/
theorem start_holds_written {condition : Condition} (h : condition.Writable) (scope : Scope)
    (fault : Option Fault) :
    let evaluated := ((ofChars condition.written).holds scope).start fault
    let incidents := condition.incidents scope
    (firstRefusal? incidents = none →
      evaluated = (.ok (condition.truth scope), (lastFault? incidents).or fault)) ∧
    (∀ error, evaluated.1 = .error error ↔ firstRefusal? incidents = some error) ∧
    (∀ operand before, (Operand.number scope operand).start before =
      Evaluation.outcome (Operand.worth scope operand) (Operand.incident? scope operand).toList
        before) ∧
    ∀ operand ofOperand, Operand.incident? scope operand = some (.fault ofOperand) ↔
      let name := String.ofList (Operand.plain operand).2
      Operand.word? name = none ∧ (∃ v s, scope.find? name = some v ∧ v.value = .text s) ∧
        ofOperand = .textOperand name := by
  intro evaluated incidents
  have hread : evaluated = (condition.holds scope).start fault :=
    congrArg (fun read => (holds scope read).start fault) (ofChars_written h)
  have hevaluated : evaluated = Evaluation.outcome (condition.truth scope) incidents fault :=
    hread.trans (holds_gives scope condition fault)
  refine ⟨fun hnone => ?_, fun error => ⟨fun herror => ?_, fun hsome => ?_⟩,
    Operand.number_gives scope, fun _ _ => Operand.incident?_eq_fault_iff⟩
  · rw [hevaluated, Evaluation.outcome_of_no_refusal hnone]
  · cases hrefusal : firstRefusal? incidents with
    | none =>
        rw [hevaluated, Evaluation.outcome_of_no_refusal hrefusal] at herror
        cases herror
    | some first =>
        rw [hevaluated, Evaluation.outcome_of_refusal hrefusal] at herror
        rw [Except.error.inj herror]
  · rw [hevaluated, Evaluation.outcome_of_refusal hsome]

/-- An alternative that is not looked at, texts that are compared as texts, and a text in the
place of a number, with and without an exclamation mark. -/
theorem start_holds_written_mixed :
    let scope := Scope.ofVariables [⟨"n", .int32 5⟩, ⟨"s", .text "x"⟩, ⟨"t", .text "x"⟩]
    let condition : Condition :=
      [[.related .above "n".toList " 3".toList, .lone "t".toList],
       [.lone " !n".toList, .related .equals "s ".toList "t".toList],
       [.related .differs "!s".toList "n".toList]]
    condition.Writable ∧ condition.written = "n> 3||t&& !n||s ==t&&!s!=n".toList ∧
      ((ofChars condition.written).holds scope).start (some (.reported "before")) =
        (.ok true, some (.textOperand "s")) := by
  intro scope condition
  have h : condition.Writable := by decide
  obtain ⟨hvalue, -⟩ := start_holds_written h scope (some (.reported "before"))
  have htruth : condition.truth scope = true := by decide +kernel
  have hfault : lastFault? (condition.incidents scope) = some (.textOperand "s") := by
    decide +kernel
  refine ⟨h, by decide, ?_⟩
  rw [hvalue (by decide +kernel), htruth, hfault]
  rfl

end Condition

end TerminalConfig
