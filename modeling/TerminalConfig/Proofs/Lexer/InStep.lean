/-
The machine and the reading of a list, character by character.

A value is read twice: the machine reads it in the text, and what the machine has kept of
it is taken apart later.  Both follow quotes, backslashes and brackets.  `InStep` says that
they agree on where lists begin and end, with a case for each of the machine's two modes.

There are two ways to part, and each is a question about a single character.

  * In a list a backslash is kept even if the character after it is left out, as a control
    character is, or a blank before an opening quote.  The backslash then escapes what
    comes next.
  * A quote that was escaped outside a list is kept without its backslash.  If a list
    opens later in the value, that quote is read as an opening one.

There is no third: every other character keeps the two in step, also one that shows a
problem, and whether the reading carries on after it or is stopped.
-/
import TerminalConfig.Proofs.Lexer.Step
import TerminalConfig.Proofs.ListValue.Scan

namespace TerminalConfig

open ListValue Text

/-- The hint that a value may not have been meant as a list. -/
def ListProblem.isHint : ListProblem → Bool
  | .singleElement _ _ => true
  | .openList _ | .openQuote _ => false

/-- Taking the value of an entry apart shows no more than the hint. -/
def Entry.WellFormed (e : Entry) : Prop :=
  ∀ problem ∈ (expandEntry e.value).problems, problem.isHint = true

instance (e : Entry) : Decidable e.WellFormed :=
  inferInstanceAs
    (Decidable (∀ problem ∈ (expandEntry e.value).problems, problem.isHint = true))

namespace Scanner

variable {s : Scanner} {c : Char}

/-! ### Where the two part -/

/-- Where the reading of the value stands if the blanks that wait count. -/
def waiting (s : Scanner) : Scan :=
  scan (s.value ++ s.blanks)

/-- A character means something to the machine in a list, but what was kept before it ends
in a backslash that escapes. -/
def losesEscape (s : Scanner) (c : Char) : Bool :=
  s.inList && !s.inComment && !s.escaped &&
    (c == '"' || c == '\\' || (c == ']' && !s.inString)) &&
    -- the blanks before an opening quote are given up
    (if c == '"' && !s.inString then scan s.value else s.waiting).escaped

/-- A list opens, but what was kept before it ends inside quotes. -/
def opensQuoted (s : Scanner) (c : Char) : Bool :=
  !s.inList && !s.inComment && !s.escaped && !s.inString && c == '[' &&
    (scan s.value).inString

/-- At no character of the text do the machine and the reading of its values part. -/
def keepsStep (s : Scanner) : List Char → Bool
  | [] => true
  | c :: cs => !s.losesEscape c && !s.opensQuoted c && (s.advance c).1.keepsStep cs

/-! ### In step -/

/-- The machine is inside a list, and so is the reading of its value, with the same quotes.
What is escaped for the machine is escaped for the reading. -/
structure Within (s : Scanner) : Prop where
  inList : s.inList = true
  blanks : ∀ c ∈ s.blanks.toList, isBlank c = true
  list : (scan s.value).inList = true
  quoted : (scan s.value).inString = s.inString
  escaped : s.escaped = true → (scan s.value).escaped = true ∧ s.blanks = ""

/-- The machine is outside lists, and so is the reading of its value.  The quotes may
differ, but only in a value that is no list so far. -/
structure Outside (s : Scanner) : Prop where
  inList : s.inList = false
  blanks : ∀ c ∈ s.blanks.toList, isBlank c = true
  list : (scan s.value).inList = false
  escaped : (scan s.value).escaped = false
  quoted : isList s.value = false ∨
    (scan s.value).inString = false ∧ s.inString = false ∧ s.value ≠ ""

/-- The machine and the reading of its value agree on lists. -/
def InStep (s : Scanner) : Prop :=
  s.Within ∨ s.Outside

/-- What the character leads to is in step, and an entry that it completes is well formed. -/
structure Agrees (step : Step) : Prop where
  leads : step.Leads InStep
  entry : ∀ e ∈ step.entry, e.WellFormed

theorem Agrees.taken {next : Scanner} (h : next.InStep) : Agrees (.taken next none) :=
  ⟨h, by simp [Step.entry]⟩

theorem Agrees.faulty {error : SyntaxError} {onward halted : Scanner} (honward : onward.InStep)
    (hhalted : halted.InStep) : Agrees (.faulty error none onward halted) :=
  ⟨⟨honward, hhalted⟩, by simp [Step.entry]⟩

theorem scan_value_push : scan (s.push c).value = s.waiting.step c :=
  scan_push _ _

theorem waiting_push : (s.push c).waiting = s.waiting.step c := by
  rw [waiting, push, String.append_empty, scan_push, waiting]

/-- Blanks that wait change neither the quotes nor the list. -/
theorem waiting_of_blanks (h : ∀ c ∈ s.blanks.toList, isBlank c = true) :
    s.waiting.inString = (scan s.value).inString ∧ s.waiting.inList = (scan s.value).inList ∧
      (s.waiting.escaped = true → (scan s.value).escaped = true) := by
  rw [waiting, scan_append]
  exact Scan.foldl_blanks h _

theorem isList_value_push (h : ∀ c ∈ s.blanks.toList, isBlank c = true) :
    isList (s.push c).value = (isList s.value || (c == '[' && !s.waiting.escaped)) := by
  rw [push, isList_push, isList_append_blanks h, waiting]

theorem forall_blanks_push (h : ∀ d ∈ s.blanks.toList, isBlank d = true)
    (hc : isBlank c = true) : ∀ d ∈ (s.blanks.push c).toList, isBlank d = true := by
  intro d hd
  rw [String.toList_push] at hd
  rcases List.mem_append.mp hd with hd | hd
  · exact h d hd
  · rw [List.mem_singleton.mp hd]
    exact hc

/-! ### Inside a list -/

namespace Within

theorem waiting_inList (h : s.Within) : s.waiting.inList = true :=
  (waiting_of_blanks h.blanks).2.1.trans h.list

theorem waiting_inString (h : s.Within) : s.waiting.inString = s.inString :=
  (waiting_of_blanks h.blanks).1.trans h.quoted

theorem waiting_escaped (h : s.Within) (hescaped : s.escaped = true) :
    s.waiting.escaped = true := by
  obtain ⟨hvalue, hblanks⟩ := h.escaped hescaped
  rw [waiting, hblanks, String.append_empty]
  exact hvalue

theorem unescape (h : s.Within) : ({ s with escaped := false } : Scanner).Within :=
  { h with escaped := by simp }

theorem dropBlanks (h : s.Within) : ({ s with blanks := "" } : Scanner).Within :=
  { h with blanks := by simp, escaped := fun hescaped => ⟨(h.escaped hescaped).1, rfl⟩ }

theorem pushBlank (h : s.Within) (hc : isBlank c = true) :
    ({ s with blanks := s.blanks.push c, escaped := false } : Scanner).Within :=
  { h with blanks := forall_blanks_push h.blanks hc, escaped := by simp }

/-- A character that does not close the list joins the value. -/
theorem push (h : s.Within) (hclose : c = ']' → s.inString = true ∨ s.waiting.escaped = true)
    (inString escaped : Bool) (hstring : inString = (s.waiting.step c).inString)
    (hescaped : escaped = true → (s.waiting.step c).escaped = true) :
    ({ s.push c with inString := inString, escaped := escaped } : Scanner).Within where
  inList := h.inList
  blanks := by simp [Scanner.push]
  list := by
    have hlist := h.waiting_inList
    have hquoted := h.waiting_inString
    rw [scan_value_push, Scan.step_inList]
    grind
  quoted := by rw [scan_value_push, hstring]
  escaped := fun he => ⟨by rw [scan_value_push]; exact hescaped he, rfl⟩

/-- A character that leaves the quotes as they are joins the value. -/
theorem push_plain (h : s.Within)
    (hclose : c = ']' → s.inString = true ∨ s.waiting.escaped = true)
    (hquote : c = '"' → s.waiting.escaped = true) :
    ({ s.push c with escaped := false } : Scanner).Within := by
  refine h.push hclose _ false ?_ (by simp)
  have hquoted := h.waiting_inString
  rw [Scan.step_inString]
  grind [Scanner.push]

/-- A character that stands for itself.  After a backslash that may be any. -/
theorem plain (h : s.Within)
    (hc : s.escaped = true ∨ c ≠ '"' ∧ (c = ']' → s.inString = true)) : (s.plain c).Within := by
  have hwaiting := h.waiting_escaped
  unfold Scanner.plain
  split
  · exact h.unescape
  · split
    · split
      · -- a bracket inside quotes gets a backslash
        rename_i hbracket
        rw [Bool.and_eq_true] at hbracket
        have hbackslash : ({ s.push '\\' with escaped := false } : Scanner).Within :=
          h.push_plain (by simp) (by simp)
        exact hbackslash.push_plain (fun _ => Or.inl hbracket.1) (by grind)
      · exact h.push_plain (by grind) (by grind)
    · split
      · rename_i hblank _
        exact h.pushBlank (by grind)
      · exact h.unescape

/-- A backslash escapes for both. -/
theorem backslash (h : s.Within) (hwaiting : s.waiting.escaped = false) :
    (({ s with escaped := true } : Scanner).push '\\').Within := by
  have hpush := h.push (c := '\\') (by simp) s.inString true
    (by rw [Scan.step_inString, h.waiting_inString]; simp)
    (by rw [Scan.step_escaped, hwaiting]; simp)
  exact hpush

/-- A quote opens or closes for both. -/
theorem toggleQuote (h : s.Within) (hescaped : s.escaped = false)
    (hwaiting : (if s.inString then s.waiting else scan s.value).escaped = false) :
    s.toggleQuote.Within := by
  by_cases hstring : s.inString = true
  · rw [if_pos hstring] at hwaiting
    have hpush := h.push (c := '"') (by simp) false s.escaped
      (by rw [Scan.step_inString, h.waiting_inString, hwaiting, hstring]; rfl)
      (by simp [hescaped])
    unfold Scanner.toggleQuote
    simpa [hstring, h.inList, Scanner.push] using hpush
  · rw [Bool.not_eq_true] at hstring
    rw [hstring, if_neg Bool.false_ne_true] at hwaiting
    have hblanks : ({ s with blanks := "" } : Scanner).waiting = scan s.value := by
      rw [waiting, String.append_empty]
    have hpush := h.dropBlanks.push (c := '"') (by simp) true s.escaped
      (by rw [Scan.step_inString, h.dropBlanks.waiting_inString, hblanks, hwaiting, hstring]; rfl)
      (by simp [hescaped])
    unfold Scanner.toggleQuote
    simpa [hstring, h.inList, Scanner.push] using hpush

/-- A list closes for both. -/
theorem close (h : s.Within) (hstring : s.inString = false)
    (hwaiting : s.waiting.escaped = false) :
    (({ s with inList := false } : Scanner).plain ']').Outside := by
  have hplain : ({ s with inList := false } : Scanner).plain ']' =
      { s.push ']' with inList := false, escaped := false } := by
    simp [Scanner.plain, hstring, isControl, isBlank, Scanner.push]
  have hquoted : s.waiting.inString = false := h.waiting_inString.trans hstring
  rw [hplain]
  refine ⟨rfl, by simp [Scanner.push], ?_, ?_, Or.inr ⟨?_, hstring, by simp [Scanner.push]⟩⟩
  · rw [scan_value_push, Scan.step_inList, hwaiting, hquoted]
    rfl
  · rw [scan_value_push, Scan.step_escaped]
    rfl
  · rw [scan_value_push, Scan.step_inString, hquoted]
    rfl

/-- Inside a list no character completes an entry. -/
theorem stepValue (h : s.Within) (hcomment : s.inComment = false)
    (hkeeps : s.losesEscape c = false) : Agrees (s.stepValue c) := by
  have hlist := h.inList
  have hmeant (hescaped : s.escaped = false)
      (hc : c = '"' ∨ c = '\\' ∨ c = ']' ∧ s.inString = false) :
      (if c == '"' && !s.inString then scan s.value else s.waiting).escaped = false := by
    unfold losesEscape at hkeeps
    grind
  have hstep := stepValue_listStep (c := c) hlist
  generalize s.stepValue c = step at hstep ⊢
  cases hstep with
  | escaped hescaped => exact .taken (Or.inl (h.plain (Or.inl hescaped)))
  | backslash hescaped => exact .taken (Or.inl (h.backslash (hmeant hescaped (by simp))))
  | quote hescaped =>
      have hwaiting := hmeant hescaped (by simp)
      exact .taken (Or.inl (h.toggleQuote hescaped (by grind)))
  | opening hescaped =>
      exact .faulty (Or.inl (h.plain (Or.inr (by simp)))) (Or.inl h)
  | closing hescaped hstring =>
      exact .taken (Or.inr (h.close hstring (hmeant hescaped (by simp [hstring]))))
  | plain hescaped _ hquote hclose => exact .taken (Or.inl (h.plain (Or.inr ⟨hquote, hclose⟩)))

end Within

/-! ### Outside lists -/

namespace Outside

theorem waiting_inList (h : s.Outside) : s.waiting.inList = false :=
  (waiting_of_blanks h.blanks).2.1.trans h.list

theorem waiting_escaped (h : s.Outside) : s.waiting.escaped = false := by
  rw [← Bool.not_eq_true]
  intro hescaped
  have hvalue := (waiting_of_blanks h.blanks).2.2 hescaped
  rw [h.escaped] at hvalue
  exact absurd hvalue (by decide)

/-- Where a quote may stand there is no list before it. -/
theorem not_isList (h : s.Outside) (hfirst : s.inString = true ∨ s.value = "") :
    isList s.value = false := by
  rcases h.quoted with hscalar | ⟨-, hstring, hne⟩
  · exact hscalar
  · rcases hfirst with hopen | hempty
    · rw [hstring] at hopen
      exact absurd hopen (by decide)
    · exact absurd hempty hne

theorem setEscaped (h : s.Outside) (escaped : Bool) :
    ({ s with escaped := escaped } : Scanner).Outside :=
  { h with }

theorem pushBlank (h : s.Outside) (hc : isBlank c = true) :
    ({ s with blanks := s.blanks.push c, escaped := false } : Scanner).Outside :=
  { h with blanks := forall_blanks_push h.blanks hc }

/-- A character that opens no list joins the value.  A quote does so inside quotes only. -/
theorem push (h : s.Outside) (hopen : c ≠ '[') (hbackslash : c ≠ '\\')
    (hquote : c = '"' → s.inString = true) :
    ({ s.push c with escaped := false } : Scanner).Outside where
  inList := h.inList
  blanks := by simp [Scanner.push]
  list := by
    have hlist := h.waiting_inList
    rw [scan_value_push, Scan.step_inList]
    grind
  escaped := by
    rw [scan_value_push, Scan.step_escaped]
    simp [hbackslash]
  quoted := by
    have hstring := (waiting_of_blanks h.blanks).1
    have hquoted := h.quoted
    have hne : (s.push c).value ≠ "" := by simp [Scanner.push]
    rw [isList_value_push h.blanks, scan_value_push, Scan.step_inString]
    grind [Scanner.push]

/-- A bracket inside quotes joins the value behind a backslash. -/
theorem push_bracket (h : s.Outside) (hstring : s.inString = true) :
    ({ (s.push '\\').push c with escaped := false } : Scanner).Outside := by
  have hbackslash : (s.push '\\').waiting.escaped = true := by
    rw [waiting_push, Scan.step_escaped, h.waiting_escaped]
    rfl
  have hnone : ∀ d ∈ (s.push '\\').blanks.toList, isBlank d = true := by simp [Scanner.push]
  refine ⟨h.inList, by simp [Scanner.push], ?_, ?_, Or.inl ?_⟩
  · rw [scan_value_push, Scan.step_inList, hbackslash, waiting_push, Scan.step_inList,
      h.waiting_inList]
    simp
  · rw [scan_value_push, Scan.step_escaped, hbackslash, Bool.not_true, Bool.and_false]
  · rw [isList_value_push hnone, isList_value_push h.blanks, h.not_isList (Or.inl hstring),
      hbackslash]
    simp

/-- A character that stands for itself. -/
theorem plain (h : s.Outside) (hbackslash : c ≠ '\\') (hquote : c ≠ '"')
    (hopen : c = '[' → s.inString = true) : (s.plain c).Outside := by
  unfold Scanner.plain
  split
  · exact h.setEscaped false
  · split
    · split
      · rename_i hbracket
        rw [Bool.and_eq_true] at hbracket
        exact h.push_bracket hbracket.1
      · exact h.push (by grind) hbackslash (fun hc => absurd hc hquote)
    · split
      · rename_i hblank _
        exact h.pushBlank (by grind)
      · exact h.setEscaped false

/-- A quote that is not part of a list only opens or closes. -/
theorem toggleQuote (h : s.Outside) (hfirst : s.inString = true ∨ s.value = "") :
    s.toggleQuote.Outside := by
  have htoggle : s.toggleQuote =
      { s with blanks := if s.inString then s.blanks else "", inString := !s.inString } := by
    unfold Scanner.toggleQuote
    split <;> simp [h.inList]
  have hblanks : ∀ c ∈ (if s.inString then s.blanks else "").toList, isBlank c = true := by
    split
    · exact h.blanks
    · simp
  rw [htoggle]
  exact ⟨h.inList, hblanks, h.list, h.escaped, Or.inl (h.not_isList hfirst)⟩

/-- Text before a quote may be given up. -/
theorem giveUp (h : s.Outside) : ({ s with value := "" } : Scanner).Outside :=
  { h with list := rfl, escaped := rfl, quoted := Or.inl rfl }

/-- A list opens for both. -/
theorem opening (h : s.Outside) (hstring : s.inString = false)
    (hquoted : (scan s.value).inString = false) :
    (({ s with inList := true } : Scanner).plain '[').Within := by
  have hplain : ({ s with inList := true } : Scanner).plain '[' =
      { s.push '[' with inList := true, escaped := false } := by
    simp [Scanner.plain, hstring, isControl, isBlank, Scanner.push]
  have hwaiting : s.waiting.inString = false := (waiting_of_blanks h.blanks).1.trans hquoted
  rw [hplain]
  refine ⟨rfl, by simp [Scanner.push], ?_, ?_, by simp⟩
  · rw [scan_value_push, Scan.step_inList, h.waiting_escaped, hwaiting]
    rfl
  · rw [scan_value_push, Scan.step_inString, hwaiting, Scanner.push, hstring]
    rfl

/-- A value that ends outside lists is well formed. -/
theorem valueEntry (h : s.Outside) : s.valueEntry.WellFormed := by
  have hvalue : (expandEntry s.valueEntry.value).problems = (expand s.value).problems := rfl
  intro problem hproblem
  rw [hvalue, expand] at hproblem
  split at hproblem
  · rename_i hlist
    have hquoted : (scan s.value).inString = false := by
      rcases h.quoted with hscalar | ⟨hclosed, -, -⟩
      · rw [hlist] at hscalar
        exact absurd hscalar (by decide)
      · exact hclosed
    rw [← scan, Scan.expansion_problems, Scan.problems, h.list, hquoted] at hproblem
    simp only [Bool.false_eq_true, if_false, List.append_nil] at hproblem
    split at hproblem
    · rw [List.mem_singleton.mp hproblem]
      rfl
    · exact absurd hproblem List.not_mem_nil
  · exact absurd hproblem List.not_mem_nil

theorem afterValue (h : s.Outside) : s.afterValue.Outside where
  inList := h.inList
  blanks := by simp [Scanner.afterValue]
  list := rfl
  escaped := rfl
  quoted := Or.inl rfl

/-- Outside lists a newline completes the entry of the value. -/
theorem stepValue (h : s.Outside) (hcomment : s.inComment = false)
    (hkeeps : s.opensQuoted c = false) : Agrees (s.stepValue c) := by
  have hlist := h.inList
  have hstep := stepValue_textStep (c := c) hlist
  generalize s.stepValue c = step at hstep ⊢
  cases hstep with
  | newline => exact ⟨Or.inr h.afterValue, by simpa [Step.entry] using h.valueEntry⟩
  | openLine =>
      exact ⟨⟨Or.inr h.afterValue, Or.inr h.afterValue⟩, by simpa [Step.entry] using h.valueEntry⟩
  | escapedNewline => exact .taken (Or.inr (h.push (by decide) (by decide) (by simp)))
  | escapedQuote _ hstring =>
      exact .taken (Or.inr (h.push (by decide) (by decide) fun _ => hstring))
  | badEscape => exact .faulty (Or.inr (h.setEscaped false)) (Or.inr h)
  | backslash => exact .taken (Or.inr (h.setEscaped true))
  | quote _ hfirst => exact .taken (Or.inr (h.toggleQuote hfirst))
  | lateQuote => exact .faulty (Or.inr (h.giveUp.toggleQuote (Or.inr rfl))) (Or.inr h)
  | opening hescaped hstring =>
      have hquoted : (scan s.value).inString = false := by
        simpa [opensQuoted, hlist, hcomment, hescaped, hstring] using hkeeps
      exact .taken (Or.inl (h.opening hstring hquoted))
  | closing => exact .faulty (Or.inr (h.plain (by decide) (by decide) (by simp))) (Or.inr h)
  | plain _ hbackslash hquote hopen => exact .taken (Or.inr (h.plain hbackslash hquote hopen))

end Outside

/-! ### What one character does -/

theorem inStep_start : ({} : Scanner).InStep :=
  Or.inr ⟨rfl, by simp, rfl, rfl, Or.inl rfl⟩

theorem flagEntry_wellFormed : ∀ e ∈ s.flagEntry, e.WellFormed := by
  unfold flagEntry
  split
  · simp
  · simp [Entry.WellFormed, expandEntry]

namespace InStep

/-- Nothing but what belongs to the value matters. -/
theorem congr {t : Scanner} (h : s.InStep) (hvalue : t.value = s.value)
    (hblanks : t.blanks = s.blanks) (hstring : t.inString = s.inString)
    (hlist : t.inList = s.inList) (hescaped : t.escaped = s.escaped) : t.InStep := by
  rcases h with ⟨h1, h2, h3, h4, h5⟩ | ⟨h1, h2, h3, h4, h5⟩
  · exact Or.inl ⟨by rwa [hlist], by rwa [hblanks], by rwa [hvalue], by rwa [hvalue, hstring],
      by rwa [hvalue, hblanks, hescaped]⟩
  · exact Or.inr ⟨by rwa [hlist], by rwa [hblanks], by rwa [hvalue], by rwa [hvalue],
      by rwa [hvalue, hstring]⟩

theorem stepKey (h : s.InStep) : Agrees (s.stepKey c) := by
  unfold Scanner.stepKey
  split
  · exact .taken (h.congr rfl rfl rfl rfl rfl)
  · split
    · exact ⟨h.congr rfl rfl rfl rfl rfl, flagEntry_wellFormed⟩
    · split
      · exact .taken h
      · exact .taken (h.congr rfl rfl rfl rfl rfl)

theorem stepPlace (h : s.InStep) (hcomment : s.inComment = false)
    (hescape : s.losesEscape c = false) (hquoted : s.opensQuoted c = false) :
    Agrees (s.stepPlace c) := by
  unfold Scanner.stepPlace
  split
  · rcases h with h | h
    · exact h.stepValue hcomment hescape
    · exact h.stepValue hcomment hquoted
  · exact h.stepKey

/-- **A character at which the two do not part keeps them in step**, and an entry that it
completes is well formed. -/
theorem step (h : s.InStep) (hescape : s.losesEscape c = false)
    (hquoted : s.opensQuoted c = false) : Agrees (s.step c) := by
  have hcomments (inComment : Bool) : ({ s with inComment := inComment } : Scanner).InStep :=
    h.congr rfl rfl rfl rfl rfl
  unfold Scanner.step
  split
  · split
    · rename_i hnewline
      obtain rfl : c = '\n' := by simpa using hnewline
      exact (hcomments false).stepPlace rfl (by simp [losesEscape]) (by simp [opensQuoted])
    · exact .taken h
  · rename_i hcomment
    split
    · exact .taken (hcomments true)
    · exact h.stepPlace (by simpa using hcomment) hescape hquoted

theorem countLine (h : s.InStep) (c : Char) : (s.countLine c).InStep := by
  unfold Scanner.countLine
  split
  · exact h.congr rfl rfl rfl rfl rfl
  · exact h

theorem advance (h : s.InStep) (hescape : s.losesEscape c = false)
    (hquoted : s.opensQuoted c = false) : (s.advance c).1.InStep :=
  advance_of_leads (fun _ ht => ht.countLine c) (h.step hescape hquoted).leads

/-- Outside lists, the entry that the end of the text completes is well formed. -/
theorem endEntry (h : s.InStep) (hlist : s.inList = false) : ∀ e ∈ s.endEntry, e.WellFormed := by
  unfold Scanner.endEntry
  split
  · rcases h with h | h
    · rw [h.inList] at hlist
      exact absurd hlist (by decide)
    · simpa using h.valueEntry
  · exact flagEntry_wellFormed

end InStep

end Scanner

end TerminalConfig
