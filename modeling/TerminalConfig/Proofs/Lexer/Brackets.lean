/-
Which values are lists.

Whether a value is a list is asked twice.  The machine goes by the brackets that it reads: one
that is neither escaped nor quoted nor in a comment opens a list.  Later the value is looked at
by itself, and there a bracket counts if the backslashes before it do not escape it.

The two agree, although the value is not what was read: escapes have been resolved, quotes are
gone outside lists, brackets between quotes have a backslash that nobody wrote, and a quote may
have given up all that was before it.  What carries the induction is what `Coherent` says of the
backslashes: a value that is no list does not end in one that escapes.

`BracketSince` says of a text that has been read that it has such a bracket, and that the value
has neither started nor been given up since.
-/
import TerminalConfig.Proofs.Lexer.Actions

namespace TerminalConfig

open ListValue Text

namespace Scanner

variable {s : Scanner} {c : Char}

/-! ### One character -/

/-- The character is a bracket that opens a list, or would open one inside a list. -/
def opensList (s : Scanner) (c : Char) : Bool :=
  c == '[' && s.inValue && !s.inComment && !s.inString && !s.escaped

/-- The value starts with what follows, or it starts over because its text was given up. -/
def startsOver (s : Scanner) (error : Option SyntaxError) (next : Scanner) : Bool :=
  (!s.inValue && next.inValue) ||
    match error with
    | some (.textBeforeQuote _) => next.value == ""
    | _ => false

/-- The entry that is complete with the next character, or with the end of the text. -/
def completes (s : Scanner) : List Char → Option Entry
  | [] => s.endEntry
  | c :: _ => (s.step c).entry

theorem startsOver_eq_false (hvalue : s.inValue = true) {error : Option SyntaxError}
    (herror : ∀ text, error ≠ some (.textBeforeQuote text)) (next : Scanner) :
    s.startsOver error next = false := by
  unfold startsOver
  rw [hvalue]
  split
  · rename_i text
    exact absurd rfl (herror text)
  · rfl

/-- But for a quote after text, no character makes a value start over. -/
theorem isList_of_goesOn (hvalue : s.inValue = true) {error : Option SyntaxError}
    (herror : ∀ text, error ≠ some (.textBeforeQuote text)) {next : Scanner}
    (hnext : isList next.value = (s.opensList c || isList s.value)) :
    isList next.value = (s.opensList c || (isList s.value && !s.startsOver error next)) := by
  rw [startsOver_eq_false hvalue herror, hnext, Bool.not_false, Bool.and_true]

/-- Whether a list is open makes no difference to what is kept. -/
theorem plain_value_setList (inList : Bool) (c : Char) :
    (({ s with inList := inList } : Scanner).plain c).value = (s.plain c).value := by
  unfold plain
  dsimp only
  split
  · rfl
  split
  · split <;> rfl
  · split <;> rfl

namespace Coherent

theorem isList_push_of_ne (h : s.Coherent) (hc : c ≠ '[') :
    isList (s.push c).value = isList s.value := by
  rw [isList_value_push h.isBlank_blanks]
  simp [hc]

/-- Of the characters that stand for themselves the bracket outside quotes makes the value a
list. -/
theorem isList_plain (h : s.Coherent) (c : Char) :
    isList (s.plain c).value = (isList s.value || (c == '[' && !s.inString)) := by
  have hne {d : Char} (hd : isControl d = true ∨ isBlank d = true) : (d == '[') = false := by
    rw [beq_eq_false_iff_ne]
    rintro rfl
    exact absurd hd (by decide)
  unfold Scanner.plain
  split
  · rename_i hcontrol
    simp [hne (Or.inl hcontrol)]
  split
  · rename_i hkept
    split
    · -- the bracket joins the value behind a backslash
      rename_i hbracket
      rw [Bool.and_eq_true] at hbracket
      have hnone : ∀ d ∈ (s.push '\\').blanks.toList, isBlank d = true := by simp [Scanner.push]
      by_cases hlist : isList s.value = true
      · rw [isList_value_push hnone, h.isList_push hlist, hlist, Bool.true_or, Bool.true_or]
      · rw [Bool.not_eq_true] at hlist
        have hescaped : (s.push '\\').waiting.escaped = true := by
          rw [waiting_push, Scan.step_escaped, h.waiting_escaped hlist]
          rfl
        rw [isList_value_push hnone, h.isList_push_of_ne (by decide), hescaped, hbracket.1,
          Bool.not_true, Bool.and_false]
    · rename_i hbracket
      have hopen : isList ({ s.push c with escaped := false } : Scanner).value =
          (isList s.value || (c == '[' && !s.waiting.escaped)) :=
        isList_value_push h.isBlank_blanks
      rw [hopen]
      by_cases hlist : isList s.value = true
      · rw [hlist, Bool.true_or, Bool.true_or]
      · rw [h.waiting_escaped (by simpa using hlist)]
        grind
  · rename_i hblank
    have hc : isBlank c = true := by grind
    split <;> simp [hne (Or.inr hc)]

theorem isList_toggleQuote (h : s.Coherent) : isList s.toggleQuote.value = isList s.value := by
  rw [toggleQuote_eq h.blanks_of_inString]
  split
  · have hpush : isList
        (({ s with blanks := "", inString := !s.inString } : Scanner).push '"').value =
          (isList s.value || ('"' == '[' && !(scan (s.value ++ "")).escaped)) :=
      isList_value_push (s := { s with blanks := "", inString := !s.inString }) (by simp)
    rw [hpush]
    simp
  · rfl

theorem isList_stepValue (h : s.Coherent) (hvalue : s.inValue = true)
    (hcomment : s.inComment = false) :
    (s.stepValue c).Leads fun next => next.inValue = true →
      isList next.value = (s.opensList c ||
        (isList s.value && !s.startsOver (s.stepValue c).error next)) := by
  have hgoes {error : Option SyntaxError} {next : Scanner}
      (herror : ∀ text, error ≠ some (.textBeforeQuote text))
      (hnext : isList next.value = (s.opensList c || isList s.value)) :
      next.inValue = true → isList next.value =
        (s.opensList c || (isList s.value && !s.startsOver error next)) :=
    fun _ => isList_of_goesOn hvalue herror hnext
  by_cases hlist : s.inList = true
  · -- the value of an open list is a list and stays one
    have hkept := h.list hlist
    have hstays {next : Scanner} (hnext : isList next.value = true) :
        isList next.value = (s.opensList c || isList s.value) := by
      rw [hnext, hkept, Bool.or_true]
    have hplain (d : Char) : isList (s.plain d).value = true := by
      rw [h.isList_plain, hkept, Bool.true_or]
    have hstep := stepValue_listStep (c := c) hlist
    generalize s.stepValue c = step at hstep ⊢
    cases hstep with
    | escaped => exact hgoes nofun (hstays (hplain c))
    | backslash => exact hgoes nofun (hstays (h.isList_push hkept '\\'))
    | quote => exact hgoes nofun (hstays (h.isList_toggleQuote.trans hkept))
    | opening => exact ⟨hgoes nofun (hstays (hplain '[')), hgoes nofun (hstays hkept)⟩
    | closing =>
        have hclosed := (congrArg isList (plain_value_setList false ']')).trans (hplain ']')
        exact hgoes nofun (hstays hclosed)
    | plain => exact hgoes nofun (hstays (hplain c))
  · rw [Bool.not_eq_true] at hlist
    have hstep := stepValue_textStep (c := c) hlist
    generalize s.stepValue c = step at hstep ⊢
    cases hstep with
    | newline => exact fun hnext => absurd hnext Bool.false_ne_true
    | openLine =>
        have hended : ¬s.afterValue.inValue = true := Bool.false_ne_true
        exact ⟨fun hnext => absurd hnext hended, fun hnext => absurd hnext hended⟩
    | escapedNewline => exact hgoes nofun (h.isList_push_of_ne (by decide))
    | escapedQuote => exact hgoes nofun (h.isList_push_of_ne (by decide))
    | badEscape hescaped =>
        have hnone : s.opensList c = false := by simp [opensList, hescaped]
        have hsame : isList s.value = (s.opensList c || isList s.value) := by
          rw [hnone, Bool.false_or]
        exact ⟨hgoes nofun hsame, hgoes nofun hsame⟩
    | backslash => exact hgoes nofun rfl
    | quote => exact hgoes nofun (congrArg isList (toggleQuote_value hlist))
    | lateQuote =>
        have hgiven : ({ s with value := "" } : Scanner).toggleQuote.value = "" :=
          toggleQuote_value hlist
        have hempty : isList "" = false := rfl
        refine ⟨fun _ => ?_, fun _ => ?_⟩
        · simp [hgiven, hempty, startsOver, Step.error, opensList]
        · by_cases hvalue' : s.value = "" <;>
            simp [hvalue, hvalue', hempty, startsOver, Step.error, opensList]
    | opening hescaped hstring =>
        have hopens : s.opensList '[' = true := by
          simp [opensList, hvalue, hcomment, hescaped, hstring]
        refine hgoes nofun ?_
        rw [plain_value_setList, h.isList_plain, hopens, hstring]
        simp
    | closing =>
        have hsame : isList (s.plain ']').value = isList s.value := by
          rw [h.isList_plain]
          simp
        exact ⟨hgoes nofun hsame, hgoes nofun rfl⟩
    | plain _ _ _ hopen =>
        have hnone : (c == '[' && !s.inString) = false := by grind
        have hquoted : s.opensList c = false := by
          unfold opensList
          grind
        refine hgoes nofun ?_
        rw [h.isList_plain, hnone, hquoted, Bool.or_false, Bool.false_or]

theorem isList_stepPlace (h : s.Coherent) (hcomment : s.inComment = false) :
    (s.stepPlace c).Leads fun next => next.inValue = true →
      isList next.value = (s.opensList c ||
        (isList s.value && !s.startsOver (s.stepPlace c).error next)) := by
  by_cases hvalue : s.inValue = true
  · have hplace : s.stepPlace c = s.stepValue c := if_pos hvalue
    rw [hplace]
    exact h.isList_stepValue hvalue hcomment
  · -- the value starts with an equals sign, and nothing is held before it
    have hplace : s.stepPlace c = s.stepKey c := if_neg hvalue
    rw [Bool.not_eq_true] at hvalue
    have hempty : isList s.value = false := by rw [(h.idle hvalue).value]; rfl
    rw [hplace]
    refine stepKey_value.imp fun next hsame _ => ?_
    simp [hsame, hempty, opensList, hvalue]

/-- **A character makes the value a list if it opens one**, and else leaves it what it was
unless the value starts over, whether the reading carries on or is stopped. -/
theorem isList_step (h : s.Coherent) (c : Char) :
    (s.step c).Leads fun next => next.inValue = true →
      isList next.value = (s.opensList c ||
        (isList s.value && !s.startsOver (s.step c).error next)) := by
  have hfine (text : String) : (none : Option SyntaxError) ≠ some (.textBeforeQuote text) := by
    simp
  by_cases hcomment : s.inComment = true
  · by_cases hnewline : c = '\n'
    · subst hnewline
      rw [step_newline]
      exact (h.setComment false (by simp)).isList_stepPlace rfl
    · have hsame : s.step c = .taken s none := by
        simp [Scanner.step, hcomment, hnewline]
      have hnone : s.opensList c = false := by simp [opensList, hcomment]
      rw [hsame]
      exact fun hvalue => @isList_of_goesOn s c hvalue none hfine s (by rw [hnone, Bool.false_or])
  · rw [Bool.not_eq_true] at hcomment
    by_cases hhash : (c == '#' && !s.escaped && !s.inString) = true
    · have hopened : s.step c = .taken { s with inComment := true } none := by
        simp [Scanner.step, hcomment, hhash]
      have hnone : s.opensList c = false := by
        unfold opensList
        grind
      rw [hopened]
      exact fun hvalue => @isList_of_goesOn s c hvalue none hfine _ (by rw [hnone, Bool.false_or])
    · have hplace : s.step c = s.stepPlace c := by
        simp [Scanner.step, hcomment, hhash]
      rw [hplace]
      exact h.isList_stepPlace hcomment

end Coherent

/-! ### Entries -/

/-- Only what the machine holds can be completed. -/
theorem Coherent.endEntry_of_completes (h : s.Coherent) {rest : List Char} {e : Entry}
    (hcompletes : s.completes rest = some e) : s.endEntry = some e := by
  cases rest with
  | nil => exact hcompletes
  | cons c rest =>
      have hentry := (step_entry h.idle c).symm.trans hcompletes
      split at hentry
      · exact hentry
      · exact absurd hentry (by simp)

/-- An entry with a value is the one of the value that the machine is in. -/
theorem Coherent.value_of_completes (h : s.Coherent) {rest : List Char} {e : Entry}
    (hcompletes : s.completes rest = some e) {value : String} (hvalue : e.value = some value) :
    s.inValue = true ∧ s.value = value := by
  have hend := h.endEntry_of_completes hcompletes
  unfold Scanner.endEntry flagEntry at hend
  split at hend
  · rename_i hin
    cases hend
    exact ⟨hin, Option.some_inj.mp hvalue⟩
  · split at hend
    · exact absurd hend (by simp)
    · cases hend
      exact absurd hvalue (by simp)

end Scanner

/-! ### A text that has been read -/

namespace Lexer

open Scanner

/-- The reader when it has been fed a text. -/
def fed (policy : Policy) (text : List Char) : Lexer :=
  (({ policy := policy } : Lexer).feedAll text).1

/-- At the character the value starts, or it starts over. -/
def startsOver (l : Lexer) (c : Char) : Bool :=
  l.scanner.startsOver ((l.feed c).2.map Problem.error) (l.feed c).1.scanner

/-- A bracket that opens a list has been read, and the value has neither started nor been given
up since. -/
def BracketSince (policy : Policy) (text : List Char) : Prop :=
  ∃ before after, text = before ++ '[' :: after ∧
    (fed policy before).scanner.opensList '[' = true ∧
    ∀ more c rest, after = more ++ c :: rest →
      (fed policy (before ++ '[' :: more)).startsOver c = false

variable {l : Lexer} {policy : Policy} {text : List Char} {c : Char}

theorem feedAll_append (l : Lexer) (cs ds : List Char) :
    (l.feedAll (cs ++ ds)).1 = ((l.feedAll cs).1.feedAll ds).1 := by
  induction cs generalizing l with
  | nil => rfl
  | cons c cs ih => exact ih (l.feed c).1

theorem fed_concat (policy : Policy) (text : List Char) (c : Char) :
    fed policy (text ++ [c]) = ((fed policy text).feed c).1 :=
  feedAll_append _ text [c]

theorem inOrder_fed (policy : Policy) (text : List Char) : (fed policy text).InOrder text := by
  induction text using List.reverseRecOn with
  | nil => exact InOrder.start policy
  | append_singleton text c ih =>
      rw [fed_concat]
      exact ih.feed c

/-- A character that is fed makes of the value what its step says. -/
theorem isList_feed (h : l.scanner.Coherent) (hvalue : (l.feed c).1.scanner.inValue = true) :
    ListValue.isList (l.feed c).1.scanner.value =
      (l.scanner.opensList c || (ListValue.isList l.scanner.value && !l.startsOver c)) := by
  obtain ⟨⟨next, hnext, hscanner⟩, -⟩ := feed_fields (h.isList_step c)
  have hmode : (next.countLine c).inValue = next.inValue := by
    unfold countLine
    split <;> rfl
  rw [startsOver, feed_problem]
  rw [hscanner] at hvalue ⊢
  rw [countLine_value, hnext (hmode.symm.trans hvalue)]
  simp [Scanner.startsOver, hmode, Function.comp_def]

/-- A further character opens a list, or leaves the bracket there was if the value does not
start over. -/
theorem bracketSince_concat :
    BracketSince policy (text ++ [c]) ↔
      (fed policy text).scanner.opensList c = true ∨
        BracketSince policy text ∧ (fed policy text).startsOver c = false := by
  constructor
  · rintro ⟨before, after, htext, hopens, hsince⟩
    rcases List.eq_nil_or_concat after with rfl | ⟨between, d, rfl⟩
    · obtain ⟨rfl, hc⟩ := List.append_inj' htext rfl
      obtain rfl : c = '[' := List.singleton_inj.mp hc
      exact Or.inl hopens
    · rw [List.concat_eq_append, ← List.cons_append, ← List.append_assoc] at htext
      obtain ⟨rfl, hc⟩ := List.append_inj' htext rfl
      obtain rfl : c = d := List.singleton_inj.mp hc
      refine Or.inr ⟨⟨before, between, rfl, hopens, fun more e rest hbetween => ?_⟩, ?_⟩
      · exact hsince more e (rest ++ [c]) (by rw [hbetween]; simp)
      · exact hsince between c [] (by simp)
  · rintro (hopens | ⟨⟨before, after, rfl, hopens, hsince⟩, hgoes⟩)
    · obtain rfl : c = '[' := by
        unfold Scanner.opensList at hopens
        grind
      exact ⟨text, [], rfl, hopens, by simp⟩
    · refine ⟨before, after ++ [c], by simp, hopens, fun more d rest hafter => ?_⟩
      rcases List.eq_nil_or_concat rest with rfl | ⟨rest, e, rfl⟩
      · obtain ⟨rfl, hc⟩ := List.append_inj' hafter rfl
        obtain rfl : c = d := List.singleton_inj.mp hc
        exact hgoes
      · rw [List.concat_eq_append, ← List.cons_append, ← List.append_assoc] at hafter
        obtain ⟨hafter, -⟩ := List.append_inj' hafter rfl
        exact hsince more d rest hafter

/-- **Inside a value the value is a list if there is such a bracket**, whatever has been read
and whatever the listener has said. -/
theorem isList_fed (hvalue : (fed policy text).scanner.inValue = true) :
    ListValue.isList (fed policy text).scanner.value = true ↔ BracketSince policy text := by
  induction text using List.reverseRecOn with
  | nil => exact absurd hvalue Bool.false_ne_true
  | append_singleton text c ih =>
      rw [fed_concat] at hvalue ⊢
      rw [isList_feed (inOrder_fed policy text).coherent hvalue, bracketSince_concat]
      by_cases hbefore : (fed policy text).scanner.inValue = true
      · rw [← ih hbefore]
        simp
      · -- the value starts here
        have hstarts : (fed policy text).startsOver c = true := by
          simp [startsOver, Scanner.startsOver, hbefore, hvalue]
        simp [hstarts]

/-! ### The entries of a text -/

/-- What waits to be handed over makes no difference to how a character is read. -/
theorem feed_drain (l : Lexer) (c : Char) : (l.drain.1.feed c).1.drain.1 = (l.feed c).1.drain.1 := by
  obtain ⟨policy, heard, scanner, aborted, queue⟩ := l
  simp only [feed, drain]
  cases scanner.step c with
  | taken next entry => rfl
  | faulty error entry onward halted => cases policy <;> rfl

theorem feedAll_drain (l : Lexer) (text : List Char) :
    (l.drain.1.feedAll text).1.drain.1 = (l.feedAll text).1.drain.1 := by
  induction text generalizing l with
  | nil => rfl
  | cons c cs ih =>
      calc ((l.drain.1.feed c).1.feedAll cs).1.drain.1
          = ((l.drain.1.feed c).1.drain.1.feedAll cs).1.drain.1 := (ih _).symm
        _ = ((l.feed c).1.drain.1.feedAll cs).1.drain.1 := by rw [feed_drain]
        _ = ((l.feed c).1.feedAll cs).1.drain.1 := ih _

/-- **An entry is handed over when the reader has not been stopped and the character that
comes next completes it**, or the end of the text. -/
theorem exists_completes_of_mem {rest : List Char} {e : Entry} (haborted : l.aborted = false)
    (hqueue : l.queue = []) (he : e ∈ entriesOf (l.readOn rest).2) :
    ∃ before after, rest = before ++ after ∧ (l.feedAll before).1.aborted = false ∧
      (l.feedAll before).1.scanner.completes after = some e := by
  induction rest generalizing l with
  | nil =>
      obtain ⟨-, hfinish⟩ := finish_fields l
      have hend : l.scanner.endEntry = some e := by
        simpa [readOn, drain, hfinish, hqueue] using he
      exact ⟨[], [], rfl, haborted, hend⟩
  | cons c cs ih =>
      obtain ⟨-, hfeed⟩ := feed_fields (step_line (s := l.scanner) (c := c))
      rw [hqueue, List.nil_append] at hfeed
      by_cases hnow : e ∈ (l.scanner.step c).entry.toList
      · exact ⟨[], c :: cs, rfl, haborted, Option.mem_toList.mp hnow⟩
      · have hlater : (l.feed c).1.aborted = false ∧
            e ∈ entriesOf ((l.feed c).1.drain.1.readOn cs).2 := by
          rw [readOn] at he
          dsimp only at he
          rw [show (l.feed c).1.drain.2 = (l.scanner.step c).entry.toList from hfeed] at he
          split at he
          · exact absurd (by simpa using he) hnow
          · rename_i hrunning
            rw [Bool.not_eq_true] at hrunning
            simp only [entriesOf_append, entriesOf_problems, entriesOf_entries, List.nil_append,
              List.mem_append] at he
            exact ⟨hrunning, he.resolve_left hnow⟩
        obtain ⟨hrunning, hmem⟩ := hlater
        obtain ⟨before, after, rfl, hbefore, hcompletes⟩ :=
          ih (l := (l.feed c).1.drain.1) hrunning rfl hmem
        have hsame := feedAll_drain (l.feed c).1 before
        refine ⟨c :: before, after, rfl, ?_, ?_⟩
        · exact (congrArg Lexer.aborted hsame).symm.trans hbefore
        · have hscanner := congrArg Lexer.scanner hsame
          exact (congrArg (Scanner.completes · after) hscanner).symm.trans hcompletes

end Lexer

open Lexer

/-- **The lexer and the reader of values agree on what a list is**, whatever is wrong with a
text and whatever the listener says.  A value is handed over at a point of the text that the
reader has come to without being stopped, and it is a list if and only if a bracket has been
read by then that was neither escaped nor quoted nor in a comment, and neither has the value
started since then nor has its text been given up. -/
theorem readSettings_isList (policy : Policy) (text : List Char) {e : Entry}
    (he : e ∈ (readSettings policy text).entries) {value : String}
    (hvalue : e.value = some value) :
    ∃ before rest, text = before ++ rest ∧
      (fed policy before).aborted = false ∧
      (fed policy before).scanner.completes rest = some e ∧
      (ListValue.isList value = true ↔ BracketSince policy before) := by
  obtain ⟨before, rest, htext, haborted, hcompletes⟩ :=
    exists_completes_of_mem (l := ({ policy := policy } : Lexer)) rfl rfl he
  obtain ⟨hin, hsame⟩ := (inOrder_fed policy before).coherent.value_of_completes hcompletes hvalue
  refine ⟨before, rest, htext, haborted, hcompletes, ?_⟩
  rw [← hsame]
  exact isList_fed hin

/-- In the first line the brackets are between quotes, in the second they are given up, and the
third has one in a comment. -/
theorem readSettings_isList_givenUp :
    let text := "a = \"[x]\"\nb = [c] \"d\"\ne = f # [\ng = [h, \"]\"]\n".toList
    let e : Entry := ⟨"b", some "d", 2⟩
    e ∈ (readSettings .listen text).entries ∧ e.value = some "d" ∧
      ∃ before rest, text = before ++ rest ∧ (fed .listen before).aborted = false ∧
        (fed .listen before).scanner.completes rest = some e ∧
        ¬BracketSince .listen before := by
  intro text e
  have he : e ∈ (readSettings .listen text).entries := by decide +kernel
  have hvalue : e.value = some "d" := rfl
  obtain ⟨before, rest, htext, haborted, hcompletes, hlist⟩ :=
    readSettings_isList .listen text he hvalue
  exact ⟨he, hvalue, before, rest, htext, haborted, hcompletes,
    fun hsince => absurd (hlist.mpr hsince) (by decide +kernel)⟩

end TerminalConfig
