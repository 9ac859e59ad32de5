/-
What a single character can do to the machine.

The machine has two modes.  Inside a value it may hold a text, blanks that wait, an open
quote or an open list; outside one it holds none of them, and `IdleOutside` says so.  Every
character keeps that, also one that shows a problem, and whether the reading carries on
after it or is stopped.

All that a character of a value can do is said once, by `ListStep` for a character of a
list and by `TextStep` for any other.
-/
import TerminalConfig.Proofs.Lexer.Run

namespace TerminalConfig

/-- The machine is left in a state of the kind, whatever is done about a problem. -/
def Step.Leads (P : Scanner → Prop) : Step → Prop
  | .taken next _ => P next
  | .faulty _ _ onward halted => P onward ∧ P halted

/-- The machine after the character if the reading carries on. -/
def Step.onward : Step → Scanner
  | .taken next _ => next
  | .faulty _ _ onward _ => onward

/-- The entry that the character completes. -/
def Step.entry : Step → Option Entry
  | .taken _ entry => entry
  | .faulty _ entry _ _ => entry

/-- What is wrong with the character. -/
def Step.error : Step → Option SyntaxError
  | .taken _ _ => none
  | .faulty error _ _ _ => some error

theorem Step.Leads.imp {P Q : Scanner → Prop} {step : Step} (h : step.Leads P)
    (himp : ∀ s, P s → Q s) : step.Leads Q := by
  cases step with
  | taken next entry => exact himp next h
  | faulty error entry onward halted => exact ⟨himp onward h.1, himp halted h.2⟩

theorem Step.Leads.and {P Q : Scanner → Prop} {step : Step} (hP : step.Leads P)
    (hQ : step.Leads Q) : step.Leads fun s => P s ∧ Q s := by
  cases step with
  | taken next entry => exact ⟨hP, hQ⟩
  | faulty error entry onward halted => exact ⟨⟨hP.1, hQ.1⟩, hP.2, hQ.2⟩

namespace Scanner

variable {s : Scanner} {c : Char}

theorem advance_eq_onward (s : Scanner) (c : Char) :
    (s.advance c).1 = (s.step c).onward.countLine c := by
  unfold advance
  cases s.step c <;> rfl

/-- A problem is seen before the entry that the same character completes. -/
theorem seen_advance (s : Scanner) (c : Char) :
    (s.advance c).2 =
      ((s.step c).error.map fun error => Event.problem ⟨s.line, error⟩).toList ++
        (s.step c).entry.toList.map .entry := by
  unfold advance
  cases s.step c <;> rfl

theorem onward_of_leads {P : Scanner → Prop} {step : Step} (h : step.Leads P) : P step.onward := by
  cases step with
  | taken next entry => exact h
  | faulty error entry onward halted => exact h.1

/-- A kind of states that does not depend on the line is one that a step leads to. -/
theorem advance_of_leads {P : Scanner → Prop} (hline : ∀ s : Scanner, P s → P (s.countLine c))
    (h : (s.step c).Leads P) : P (s.advance c).1 := by
  rw [advance_eq_onward]
  exact hline _ (onward_of_leads h)

/-! ### What joins the value and leaves the mode alone -/

theorem plain_inValue : (s.plain c).inValue = s.inValue := by
  unfold plain push
  grind

theorem plain_inComment : (s.plain c).inComment = s.inComment := by
  unfold plain push
  grind

theorem plain_inList : (s.plain c).inList = s.inList := by
  unfold plain push
  grind

theorem plain_escaped : (s.plain c).escaped = false := by
  unfold plain
  grind

theorem toggleQuote_inComment : s.toggleQuote.inComment = s.inComment := by
  unfold toggleQuote push
  grind

theorem toggleQuote_inList : s.toggleQuote.inList = s.inList := by
  unfold toggleQuote push
  grind

theorem toggleQuote_escaped : s.toggleQuote.escaped = s.escaped := by
  unfold toggleQuote push
  grind

/-- Outside a list a quote does not join the value. -/
theorem toggleQuote_value (hlist : s.inList = false) : s.toggleQuote.value = s.value := by
  unfold toggleQuote
  grind

/-! ### Inside a value -/

/-- What a character of a list can do. -/
inductive ListStep (s : Scanner) : Char → Step → Prop
  | escaped {c : Char} (h : s.escaped = true) : ListStep s c (.taken (s.plain c) none)
  | backslash (h : s.escaped = false) :
      ListStep s '\\' (.taken (({ s with escaped := true } : Scanner).push '\\') none)
  | quote (h : s.escaped = false) : ListStep s '"' (.taken s.toggleQuote none)
  | opening (h : s.escaped = false) (hstring : s.inString = false) :
      ListStep s '[' (.faulty .nestedList none (s.plain '[') s)
  | closing (h : s.escaped = false) (hstring : s.inString = false) :
      ListStep s ']' (.taken (({ s with inList := false } : Scanner).plain ']') none)
  | plain {c : Char} (h : s.escaped = false) (hbackslash : c ≠ '\\') (hquote : c ≠ '"')
      (hclose : c = ']' → s.inString = true) : ListStep s c (.taken (s.plain c) none)

theorem stepValue_listStep (hlist : s.inList = true) : ListStep s c (s.stepValue c) := by
  by_cases hescaped : s.escaped = true
  · have hplain : s.stepValue c = .taken (s.plain c) none := by
      simp [stepValue, hlist, hescaped]
    rw [hplain]
    exact .escaped hescaped
  · rw [Bool.not_eq_true] at hescaped
    by_cases hbackslash : c = '\\'
    · subst hbackslash
      have htaken : s.stepValue '\\' =
          .taken (({ s with escaped := true } : Scanner).push '\\') none := by
        simp [stepValue, hlist, hescaped]
      rw [htaken]
      exact .backslash hescaped
    by_cases hquote : c = '"'
    · subst hquote
      have htaken : s.stepValue '"' = .taken s.toggleQuote none := by
        simp [stepValue, stepQuote, hlist, hescaped]
      rw [htaken]
      exact .quote hescaped
    by_cases hopen : c = '[' ∧ s.inString = false
    · obtain ⟨rfl, hstring⟩ := hopen
      have hsame : ({ s with inList := true } : Scanner) = s := by rw [← hlist]
      have hfaulty : s.stepValue '[' =
          .faulty .nestedList none (({ s with inList := true } : Scanner).plain '[') s := by
        simp [stepValue, hescaped, hstring, hlist]
      rw [hfaulty, hsame]
      exact .opening hescaped hstring
    by_cases hclose : c = ']' ∧ s.inString = false
    · obtain ⟨rfl, hstring⟩ := hclose
      have htaken : s.stepValue ']' =
          .taken (({ s with inList := false } : Scanner).plain ']') none := by
        simp [stepValue, hlist, hescaped, hstring]
      rw [htaken]
      exact .closing hescaped hstring
    · have htaken : s.stepValue c = .taken (s.plain c) none := by
        unfold stepValue
        grind
      rw [htaken]
      exact .plain hescaped hbackslash hquote (by simpa using hclose)

/-- What a character of a value can do outside lists. -/
inductive TextStep (s : Scanner) : Char → Step → Prop
  | newline : TextStep s '\n' (.taken s.afterValue (some s.valueEntry))
  | openLine :
      TextStep s '\n' (.faulty .quoteAtLineEnd (some s.valueEntry) s.afterValue s.afterValue)
  | escapedNewline (h : s.escaped = true) :
      TextStep s 'n' (.taken { s.push '\n' with escaped := false } none)
  | escapedQuote (h : s.escaped = true) (hstring : s.inString = true) :
      TextStep s '"' (.taken { s.push '"' with escaped := false } none)
  | badEscape {c : Char} (h : s.escaped = true) :
      TextStep s c (.faulty (.badEscape c) none { s with escaped := false } s)
  | backslash (h : s.escaped = false) : TextStep s '\\' (.taken { s with escaped := true } none)
  | quote (h : s.escaped = false) (hfirst : s.inString = true ∨ s.value = "") :
      TextStep s '"' (.taken s.toggleQuote none)
  | lateQuote (h : s.escaped = false) :
      TextStep s '"'
        (.faulty (.textBeforeQuote s.value) none ({ s with value := "" } : Scanner).toggleQuote s)
  | opening (h : s.escaped = false) (hstring : s.inString = false) :
      TextStep s '[' (.taken (({ s with inList := true } : Scanner).plain '[') none)
  | closing (h : s.escaped = false) (hstring : s.inString = false) :
      TextStep s ']' (.faulty .unopenedList none (s.plain ']') s)
  | plain {c : Char} (h : s.escaped = false) (hbackslash : c ≠ '\\') (hquote : c ≠ '"')
      (hopen : c = '[' → s.inString = true) : TextStep s c (.taken (s.plain c) none)

theorem stepValue_textStep (hlist : s.inList = false) : TextStep s c (s.stepValue c) := by
  by_cases hnewline : c = '\n'
  · subst hnewline
    have hend : s.stepValue '\n' = s.endValue := by
      simp [stepValue, hlist]
    rw [hend, endValue]
    split
    · exact .openLine
    · exact .newline
  by_cases hescaped : s.escaped = true
  · have hafter : s.stepValue c = s.stepEscaped c := by
      simp [stepValue, hlist, hescaped, hnewline]
    rw [hafter, stepEscaped]
    split
    · rename_i hc
      obtain rfl : c = 'n' := by simpa using hc
      exact .escapedNewline hescaped
    · split
      · rename_i hc
        obtain ⟨rfl, hstring⟩ : c = '"' ∧ s.inString = true := by simpa using hc
        exact .escapedQuote hescaped hstring
      · exact .badEscape hescaped
  · rw [Bool.not_eq_true] at hescaped
    by_cases hbackslash : c = '\\'
    · subst hbackslash
      have htaken : s.stepValue '\\' = .taken { s with escaped := true } none := by
        simp [stepValue, hlist, hescaped]
      rw [htaken]
      exact .backslash hescaped
    by_cases hquote : c = '"'
    · subst hquote
      have hquoted : s.stepValue '"' = s.stepQuote := by
        simp [stepValue, hescaped]
      rw [hquoted, stepQuote]
      split
      · exact .lateQuote hescaped
      · exact .quote hescaped (by grind)
    by_cases hopen : c = '[' ∧ s.inString = false
    · obtain ⟨rfl, hstring⟩ := hopen
      have htaken : s.stepValue '[' =
          .taken (({ s with inList := true } : Scanner).plain '[') none := by
        simp [stepValue, hlist, hescaped, hstring]
      rw [htaken]
      exact .opening hescaped hstring
    by_cases hclose : c = ']' ∧ s.inString = false
    · obtain ⟨rfl, hstring⟩ := hclose
      have hsame : ({ s with inList := false } : Scanner) = s := by rw [← hlist]
      have hfaulty : s.stepValue ']' =
          .faulty .unopenedList none (({ s with inList := false } : Scanner).plain ']') s := by
        simp [stepValue, hescaped, hstring, hlist]
      rw [hfaulty, hsame]
      exact .closing hescaped hstring
    · have htaken : s.stepValue c = .taken (s.plain c) none := by
        unfold stepValue
        grind
      rw [htaken]
      exact .plain hescaped hbackslash hquote (by simpa using hopen)

/-! ### Outside a value -/

/-- The machine holds nothing of a value. -/
structure Idle (s : Scanner) : Prop where
  value : s.value = ""
  blanks : s.blanks = ""
  inString : s.inString = false
  inList : s.inList = false
  escaped : s.escaped = false

/-- What the machine holds of a value, it holds inside a value. -/
def IdleOutside (s : Scanner) : Prop :=
  s.inValue = false → s.Idle

theorem idleOutside_start : ({} : Scanner).IdleOutside :=
  fun _ => ⟨rfl, rfl, rfl, rfl, rfl⟩

theorem stepValue_idleOutside (h : s.inValue = true) : (s.stepValue c).Leads IdleOutside := by
  unfold stepValue stepQuote endValue stepEscaped Step.Leads
  grind [plain_inValue, push, toggleQuote, afterValue, Idle, IdleOutside]

theorem stepKey_idleOutside (h : s.Idle) : (s.stepKey c).Leads IdleOutside := by
  unfold stepKey Step.Leads
  grind [Idle, IdleOutside]

theorem stepPlace_idleOutside (h : s.IdleOutside) : (s.stepPlace c).Leads IdleOutside := by
  unfold stepPlace
  by_cases hvalue : s.inValue = true
  · rw [if_pos hvalue]
    exact stepValue_idleOutside hvalue
  · rw [if_neg hvalue]
    exact stepKey_idleOutside (h (by simpa using hvalue))

/-- Every character keeps the machine idle outside values. -/
theorem step_idleOutside (h : s.IdleOutside) : (s.step c).Leads IdleOutside := by
  -- a comment makes no difference to what is held
  have hcomment (b : Bool) : ({ s with inComment := b } : Scanner).IdleOutside :=
    fun hvalue => { h hvalue with }
  unfold step
  split
  · split
    · exact stepPlace_idleOutside (hcomment false)
    · exact h
  · split
    · exact hcomment true
    · exact stepPlace_idleOutside h

theorem IdleOutside.countLine (h : s.IdleOutside) (c : Char) : (s.countLine c).IdleOutside := by
  unfold Scanner.countLine
  split
  · exact fun hvalue => { h hvalue with }
  · exact h

theorem IdleOutside.advance (h : s.IdleOutside) (c : Char) : (s.advance c).1.IdleOutside :=
  advance_of_leads (fun _ hs => hs.countLine c) (step_idleOutside h)

/-- An open quote is one of a value. -/
theorem IdleOutside.inValue_of_inString (h : s.IdleOutside) (hstring : s.inString = true) :
    s.inValue = true := by
  by_cases hvalue : s.inValue = true
  · exact hvalue
  · rw [(h (by simpa using hvalue)).inString] at hstring
    exact absurd hstring (by decide)

/-- An open list is one of a value. -/
theorem IdleOutside.inValue_of_inList (h : s.IdleOutside) (hlist : s.inList = true) :
    s.inValue = true := by
  by_cases hvalue : s.inValue = true
  · exact hvalue
  · rw [(h (by simpa using hvalue)).inList] at hlist
    exact absurd hlist (by decide)

/-! ### Entries -/

theorem stepValue_entry (s : Scanner) (c : Char) :
    (s.stepValue c).entry = if c = '\n' ∧ s.inList = false then some s.valueEntry else none := by
  unfold stepValue stepQuote endValue stepEscaped Step.entry
  grind

theorem stepKey_entry (s : Scanner) (c : Char) :
    (s.stepKey c).entry = if c = '\n' then s.flagEntry else none := by
  unfold stepKey Step.entry
  grind

theorem stepPlace_entry (h : s.IdleOutside) (c : Char) :
    (s.stepPlace c).entry = if c = '\n' ∧ s.inList = false then s.endEntry else none := by
  unfold stepPlace endEntry
  by_cases hvalue : s.inValue = true
  · rw [if_pos hvalue, if_pos hvalue, stepValue_entry]
  · have hlist : s.inList = false := (h (by simpa using hvalue)).inList
    rw [if_neg hvalue, if_neg hvalue, stepKey_entry, hlist]
    simp

/-- **Only a newline outside lists completes an entry**, the one that the end of the text would
complete in its place. -/
theorem step_entry (h : s.IdleOutside) (c : Char) :
    (s.step c).entry = if c = '\n' ∧ s.inList = false then s.endEntry else none := by
  unfold step
  split
  · split
    · have hoff : ({ s with inComment := false } : Scanner).IdleOutside :=
        fun hvalue => { h hvalue with }
      exact stepPlace_entry hoff c
    · rename_i hnewline
      have hother : ¬(c = '\n' ∧ s.inList = false) := fun hc => hnewline (by simp [hc.1])
      rw [if_neg hother]
      rfl
  · split
    · rename_i hhash
      obtain rfl : c = '#' := by grind
      rfl
    · exact stepPlace_entry h c

/-! ### Problems at the end of a line -/

variable {entry : Option Entry} {onward halted : Scanner}

/-- A line that ends inside quotes still has its entry. -/
theorem isSome_of_quoteAtLineEnd
    (h : s.step c = .faulty .quoteAtLineEnd entry onward halted) : entry.isSome = true := by
  unfold step stepPlace stepKey stepValue stepQuote endValue stepEscaped at h
  grind

/-- No character ends the text. -/
theorem step_ne_quoteAtEnd : s.step c ≠ .faulty .quoteAtEnd entry onward halted := by
  unfold step stepPlace stepKey stepValue stepQuote endValue stepEscaped
  grind

end Scanner

end TerminalConfig
