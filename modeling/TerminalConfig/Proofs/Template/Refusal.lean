/-
When interpolating a template fails.

Whatever is wrong with a template, or with the operands of its conditions, counts as zero,
as false or as nothing.  There is one exception: an operand that begins with what looks
like a numeral and is refused.  It stops the evaluation, if it is looked at.

The main statement is what interpolating comes to in either case, and what a numeral that
is refused looks like: a name or a hexadecimal numeral that has characters beyond the basic
ones, or a hexadecimal numeral that is larger than any double.
-/
import TerminalConfig.Proofs.Template.Incidents

namespace TerminalConfig

open Text

/-- The first refusal among incidents. -/
def firstRefusal? : List Incident → Option NumeralError
  | [] => none
  | .fault _ :: incidents => firstRefusal? incidents
  | .refusal error :: _ => some error

/-- The last fault among incidents. -/
def lastFault? : List Incident → Option Fault
  | [] => none
  | .fault fault :: incidents => (lastFault? incidents).or (some fault)
  | .refusal _ :: incidents => lastFault? incidents

namespace Evaluation

variable {α : Type} {a : α} {incidents : List Incident}

/-- Without a refusal an evaluation comes to its value, and the last fault is kept. -/
theorem outcome_of_no_refusal (h : firstRefusal? incidents = none) (fault : Option Fault) :
    outcome a incidents fault = (.ok a, (lastFault? incidents).or fault) := by
  induction incidents generalizing fault with
  | nil => rfl
  | cons incident incidents ih =>
      cases incident with
      | fault f =>
          rw [outcome, ih h, lastFault?, Option.or_assoc]
          rfl
      | refusal error => cases h

theorem outcome_of_refusal {error : NumeralError} (h : firstRefusal? incidents = some error)
    (fault : Option Fault) : (outcome a incidents fault).1 = .error error := by
  induction incidents generalizing fault with
  | nil => cases h
  | cons incident incidents ih =>
      cases incident with
      | fault f => exact ih h (some f)
      | refusal e =>
          cases h
          rfl

end Evaluation

/-! ### What is refused -/

/-- If the incident is a refusal, it is that of a numeral that some text begins with. -/
def Incident.Explained : Incident → Prop
  | .fault _ => True
  | .refusal error =>
    ∃ (text : List Char) (n : Numeral), Numeral.leading? text = some n ∧ n.refusal? = some error

theorem explained_incident? (scope : Scope) (operand : List Char) :
    ∀ i ∈ (Operand.incident? scope operand).toList, i.Explained := by
  intro i hi
  rw [Option.mem_toList] at hi
  unfold Operand.incident? at hi
  dsimp only at hi
  split at hi
  · cases hi
  · split at hi
    · split at hi
      · cases hi
        trivial
      · cases hi
    · obtain ⟨error, herror, rfl⟩ := Option.map_eq_some_iff.mp hi
      obtain ⟨n, hn, hrefusal⟩ := Option.bind_eq_some_iff.mp herror
      exact ⟨_, n, hn, hrefusal⟩

theorem explained_comparison (scope : Scope) (c : Comparison) :
    ∀ i ∈ c.incidents scope, i.Explained := by
  have hboth (left right : List Char) :
      ∀ i ∈ (Operand.incident? scope left).toList ++ (Operand.incident? scope right).toList,
        i.Explained :=
    List.forall_mem_append.mpr ⟨explained_incident? scope left, explained_incident? scope right⟩
  have hsame (left right : List Char) :
      ∀ i ∈ Operand.sameIncidents scope left right, i.Explained := by
    unfold Operand.sameIncidents
    split
    · simp
    · exact hboth left right
  cases c with
  | lone operand => exact explained_incident? scope operand
  | related relation left right =>
      cases relation with
      | equals => exact hsame left right
      | differs => exact hsame left right
      | _ => exact hboth left right

theorem explained_anyIncidents (scope : Scope) (cs : List Comparison) :
    ∀ i ∈ Condition.anyIncidents scope cs, i.Explained := by
  induction cs with
  | nil => simp [Condition.anyIncidents]
  | cons c cs ih =>
      rw [Condition.anyIncidents, List.forall_mem_append]
      refine ⟨explained_comparison scope c, ?_⟩
      split
      · simp
      · exact ih

theorem explained_condition (scope : Scope) (condition : Condition) :
    ∀ i ∈ condition.incidents scope, i.Explained := by
  induction condition with
  | nil => simp [Condition.incidents]
  | cons alternatives rest ih =>
      rw [Condition.incidents, List.forall_mem_append]
      refine ⟨explained_anyIncidents scope alternatives, ?_⟩
      split
      · exact ih
      · simp

theorem explained_template (scope : Scope) (t : Template) :
    ∀ i ∈ t.incidents scope, i.Explained := by
  induction t with
  | nil => simp [Template.incidents]
  | literal c rest ih => exact ih
  | reference name rest ih =>
      rw [Template.incidents, List.forall_mem_append]
      refine ⟨?_, ih⟩
      split
      · simp [Incident.Explained]
      · simp
  | conditional condition body rest ihBody ihRest =>
      rw [Template.incidents, List.forall_mem_append, List.forall_mem_append]
      refine ⟨explained_condition scope _, ?_, ihRest⟩
      split
      · exact ihBody
      · simp

/-! ### Interpolating -/

/-- Interpolating comes to what rendering comes to, from no fault on. -/
theorem interpolate_of_start {template : String} {scope : Scope}
    {result : Except NumeralError (List Char)} {fault : Option Fault}
    (h : ((Template.ofChars (template.toList.filter fun c => !isControl c)).render scope).start none
      = (result, fault)) :
    interpolate template scope = result.map fun cs => ⟨String.ofList cs, fault⟩ := by
  unfold interpolate
  simp only [h]
  cases result <;> rfl

/-- **Interpolating a template fails exactly if a numeral is refused on the way**, and with
the first that is.  Otherwise it comes to what is shown of the template and to the last
fault. -/
theorem interpolate_eq (template : String) (scope : Scope) :
    let t := Template.ofChars (template.toList.filter fun c => !isControl c)
    (firstRefusal? (t.incidents scope) = none →
      interpolate template scope =
        .ok ⟨String.ofList (t.shown scope), lastFault? (t.incidents scope)⟩) ∧
    (∀ error, firstRefusal? (t.incidents scope) = some error →
      interpolate template scope = .error error) ∧
    ∀ error, .refusal error ∈ t.incidents scope →
      ∃ text n, Numeral.leading? text = some n ∧ n.refusal? = some error := by
  intro t
  have hgives := t.render_gives scope none
  refine ⟨fun hnone => ?_, fun error hsome => ?_,
    fun error herror => explained_template scope t _ herror⟩
  · rw [Evaluation.outcome_of_no_refusal hnone, Option.or_none] at hgives
    exact interpolate_of_start hgives
  · have herror := Evaluation.outcome_of_refusal (a := t.shown scope) hsome none
    rcases houtcome : Evaluation.outcome (t.shown scope) (t.incidents scope) none with
      ⟨result, fault⟩
    rw [houtcome] at herror hgives
    obtain rfl : result = .error error := herror
    exact interpolate_of_start hgives

/-- Numerals that are refused: one that is too large, one whose exponent has a digit of
another script, and a name with a letter that only counts as an `i`. -/
theorem interpolate_refused :
    interpolate "\x7b?0x1p1024:x\x7d" {} = .error .hexadecimalTooLarge ∧
      interpolate "\x7b?0x1p\u0663:x\x7d" {} = .error .notHexadecimal ∧
      interpolate "\x7b?\u0131nf:x\x7d" {} = .error (.notDecimal "\u0131nf") := by
  decide +kernel

end TerminalConfig
