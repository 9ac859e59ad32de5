/-
Texts in which nothing that a backslash escapes gets lost.

Whether the machine and the reading of a value part depends on the state of both.  One
condition on the text alone rules it out: no backslash escapes a blank, a control character
or a quote.  Then a backslash that is kept in a list is kept with the character it escapes,
and a value outside lists has no quote in it.

Which backslashes escape can be told from the text: those that are not escaped themselves.
Inside values and outside comments the machine finds the same ones.  Elsewhere no backslash
escapes for it, and the condition asks for more than is needed.
-/
import TerminalConfig.Proofs.Lexer.InStep

namespace TerminalConfig

open ListValue Text

/-- A character that is kept wherever it is escaped, and that is no quote. -/
def isSafe (c : Char) : Bool :=
  !isBlank c && !isControl c && c != '"'

/-- All characters that a backslash escapes are safe.  The first character may be one. -/
def safeEscapes (escaped : Bool) : List Char → Bool
  | [] => true
  | c :: cs => (!escaped || isSafe c) && safeEscapes (c == '\\' && !escaped) cs

theorem isSafe_iff {c : Char} :
    isSafe c = true ↔ isBlank c = false ∧ isControl c = false ∧ c ≠ '"' := by
  simp [isSafe, and_assoc]

namespace Scanner

variable {s : Scanner} {c : Char} {escaped : Bool}

/-! ### Where a backslash escapes -/

/-- What is escaped for the machine is escaped in the text, and in values the converse holds
as well. -/
structure Follows (s : Scanner) (escaped : Bool) : Prop where
  idle : s.IdleOutside
  comment : s.inComment = true → s.escaped = false
  value : s.inValue = true → s.inComment = false → s.escaped = escaped

theorem follows_start : ({} : Scanner).Follows false :=
  ⟨idleOutside_start, fun _ => rfl, fun _ _ => rfl⟩

theorem Follows.of_escaped (h : s.Follows escaped) (hescaped : s.escaped = true) :
    escaped = true := by
  by_cases hvalue : s.inValue = true
  · by_cases hcomment : s.inComment = true
    · rw [h.comment hcomment] at hescaped
      exact absurd hescaped (by decide)
    · rw [← h.value hvalue (by simpa using hcomment)]
      exact hescaped
  · rw [(h.idle (by simpa using hvalue)).escaped] at hescaped
    exact absurd hescaped (by decide)

/-- A character that leaves the machine in the value escapes if it is a backslash that is
not escaped. -/
theorem stepValue_escaped : (s.stepValue c).onward.inValue = true →
    (s.stepValue c).onward.escaped = (c == '\\' && !s.escaped) := by
  unfold stepValue stepQuote endValue stepEscaped Step.onward
  grind [toggleQuote_escaped, plain_escaped, afterValue, push]

theorem stepValue_inComment : (s.stepValue c).onward.inComment = s.inComment := by
  unfold stepValue stepQuote endValue stepEscaped Step.onward
  grind [toggleQuote_inComment, plain_inComment, afterValue, push]

theorem stepKey_escaped (hvalue : s.inValue = false) (hescaped : s.escaped = false) :
    (s.stepKey c).onward.escaped = false ∧
      ((s.stepKey c).onward.inValue = true → c = '=') := by
  unfold stepKey Step.onward
  grind

theorem Follows.stepPlace (h : s.Follows escaped) (hcomment : s.inComment = false) :
    (s.stepPlace c).onward.Follows (c == '\\' && !escaped) := by
  have hidle := onward_of_leads (stepPlace_idleOutside (c := c) h.idle)
  unfold Scanner.stepPlace at hidle ⊢
  by_cases hvalue : s.inValue = true
  · rw [if_pos hvalue] at hidle ⊢
    have hsame := stepValue_inComment (s := s) (c := c)
    refine ⟨hidle, fun hnext => ?_, fun hnext _ => ?_⟩
    · rw [hsame, hcomment] at hnext
      exact absurd hnext (by decide)
    · rw [stepValue_escaped hnext, h.value hvalue hcomment]
  · rw [if_neg hvalue] at hidle ⊢
    rw [Bool.not_eq_true] at hvalue
    obtain ⟨hescaped, hequals⟩ := stepKey_escaped (c := c) hvalue (h.idle hvalue).escaped
    refine ⟨hidle, fun _ => hescaped, fun hnext _ => ?_⟩
    rw [hescaped, hequals hnext]
    rfl

theorem Follows.step (h : s.Follows escaped) :
    (s.step c).onward.Follows (c == '\\' && !escaped) := by
  unfold Scanner.step
  by_cases hcomment : s.inComment = true
  · rw [if_pos hcomment]
    have hescaped := h.comment hcomment
    by_cases hnewline : c = '\n'
    · subst hnewline
      have hoff : ({ s with inComment := false } : Scanner).Follows false :=
        ⟨fun hvalue => { h.idle hvalue with }, fun _ => hescaped, fun _ _ => hescaped⟩
      exact hoff.stepPlace rfl
    · rw [if_neg (by simpa using hnewline)]
      refine ⟨h.idle, h.comment, fun _ hnext => ?_⟩
      rw [Step.onward, hcomment] at hnext
      exact absurd hnext (by decide)
  · rw [if_neg hcomment]
    split
    · rename_i hhash
      have hescaped : s.escaped = false := by grind
      refine ⟨fun hvalue => { h.idle hvalue with }, fun _ => hescaped, fun _ hnext => ?_⟩
      exact absurd hnext (by simp [Step.onward])
    · exact h.stepPlace (by simpa using hcomment)

theorem Follows.countLine (h : s.Follows escaped) (c : Char) : (s.countLine c).Follows escaped := by
  refine ⟨h.idle.countLine c, ?_, ?_⟩
  · unfold Scanner.countLine
    split <;> exact h.comment
  · unfold Scanner.countLine
    split <;> exact h.value

theorem Follows.advance (h : s.Follows escaped) (c : Char) :
    (s.advance c).1.Follows (c == '\\' && !escaped) := by
  rw [advance_eq_onward]
  exact h.step.countLine c

/-! ### What is kept -/

/-- In a list the last backslash that was kept escapes for both or for neither, and outside
lists no quote has been kept. -/
structure Faithful (s : Scanner) : Prop where
  inList : s.inList = true → (scan s.value).escaped = s.escaped
  outside : s.inList = false → (scan s.value).inString = false

theorem faithful_start : ({} : Scanner).Faithful :=
  ⟨fun hlist => absurd hlist (by decide), fun _ => rfl⟩

/-- Only a quote changes the quotes, and it does not stand for itself. -/
theorem plain_scan_inString (h : ∀ d ∈ s.blanks.toList, isBlank d = true) (hc : c ≠ '"') :
    (scan (s.plain c).value).inString = (scan s.value).inString := by
  have hwaiting := (waiting_of_blanks h).1
  have hquote : (c == '"') = false := by simpa using hc
  unfold plain
  split
  · rfl
  · split
    · split
      · rw [scan_value_push, waiting_push, Scan.step_inString, Scan.step_inString, hwaiting,
          hquote]
        simp
      · rw [scan_value_push, Scan.step_inString, hwaiting, hquote]
        simp
    · split <;> rfl

/-- A character that is kept if it is escaped, and is no backslash otherwise, leaves nothing
escaped in the value. -/
theorem plain_scan_escaped (h : ∀ d ∈ s.blanks.toList, isBlank d = true)
    (hsame : (scan s.value).escaped = s.escaped)
    (hkept : s.escaped = true → isBlank c = false ∧ isControl c = false)
    (hc : s.escaped = false → c ≠ '\\') (hblanks : s.escaped = true → s.blanks = "") :
    (scan (s.plain c).value).escaped = false := by
  have hwaiting : s.waiting.escaped = s.escaped := by
    by_cases hescaped : s.escaped = true
    · rw [waiting, hblanks hescaped, String.append_empty, hsame]
    · have himp := (waiting_of_blanks h).2.2
      grind
  unfold plain
  split
  · grind
  · split
    · split
      · rw [scan_value_push, waiting_push, Scan.step_escaped, Scan.step_escaped]
        grind
      · rw [scan_value_push, Scan.step_escaped, hwaiting]
        grind
    · grind

theorem toggleQuote_scan_escaped (hlist : s.inList = true) :
    (scan s.toggleQuote.value).escaped = false := by
  obtain ⟨t, ht⟩ : ∃ t : Scanner, s.toggleQuote = t.push '"' := by
    unfold toggleQuote
    exact ⟨_, if_pos (by split <;> exact hlist)⟩
  rw [ht, scan_value_push, Scan.step_escaped]
  rfl

theorem faithful_inList (hlist : s.inList = true) (h : (scan s.value).escaped = s.escaped) :
    s.Faithful :=
  ⟨fun _ => h, fun hnot => absurd (hlist.symm.trans hnot) (by decide)⟩

theorem faithful_outside (hlist : s.inList = false) (h : (scan s.value).inString = false) :
    s.Faithful :=
  ⟨fun hnot => absurd (hlist.symm.trans hnot) (by decide), fun _ => h⟩

namespace Within

theorem stepValue_faithful (h : s.Within) (hfaithful : s.Faithful)
    (hsafe : s.escaped = true → isSafe c = true) :
    (s.stepValue c).onward.Faithful := by
  have hlist := h.inList
  have hsame := hfaithful.inList hlist
  have hstep := stepValue_listStep (c := c) hlist
  have hplain (d : Char) (hkept : s.escaped = true → isBlank d = false ∧ isControl d = false)
      (hd : s.escaped = false → d ≠ '\\') : (s.plain d).Faithful :=
    faithful_inList (plain_inList.trans hlist)
      ((plain_scan_escaped h.blanks hsame hkept hd fun he => (h.escaped he).2).trans
        plain_escaped.symm)
  generalize s.stepValue c = step at hstep ⊢
  cases hstep with
  | escaped hescaped =>
      have hc := isSafe_iff.mp (hsafe hescaped)
      exact hplain c (fun _ => ⟨hc.1, hc.2.1⟩) (by simp [hescaped])
  | backslash hescaped =>
      refine faithful_inList hlist ?_
      have hwaiting := (waiting_of_blanks h.blanks).2.2
      have hpush : (scan (({ s with escaped := true } : Scanner).push '\\').value) =
          s.waiting.step '\\' := scan_value_push
      rw [Step.onward, hpush, Scan.step_escaped]
      simp only [Scanner.push]
      grind
  | quote hescaped =>
      refine faithful_inList (toggleQuote_inList.trans hlist) ?_
      rw [Step.onward, toggleQuote_scan_escaped hlist, toggleQuote_escaped, hescaped]
  | opening hescaped => exact hplain '[' (by simp [hescaped]) (by simp)
  | closing hescaped hstring =>
      refine faithful_outside plain_inList ?_
      rw [Step.onward, plain_scan_inString (by exact h.blanks) (by decide)]
      exact h.quoted.trans hstring
  | plain hescaped hbackslash _ _ =>
      exact hplain c (by simp [hescaped]) fun _ => hbackslash

end Within

namespace Outside

theorem stepValue_faithful (h : s.Outside) (hfaithful : s.Faithful)
    (hsafe : s.escaped = true → isSafe c = true) :
    (s.stepValue c).onward.Faithful := by
  have hlist := h.inList
  have hsame := hfaithful.outside hlist
  have hstep := stepValue_textStep (c := c) hlist
  generalize s.stepValue c = step at hstep ⊢
  cases hstep with
  | newline => exact faithful_outside hlist rfl
  | openLine => exact faithful_outside hlist rfl
  | escapedNewline =>
      refine faithful_outside hlist ?_
      have hpush : scan (s.push '\n').value = s.waiting.step '\n' := scan_value_push
      rw [Step.onward, hpush, Scan.step_inString, (waiting_of_blanks h.blanks).1, hsame]
      rfl
  | escapedQuote hescaped => exact absurd rfl (isSafe_iff.mp (hsafe hescaped)).2.2
  | badEscape => exact faithful_outside hlist hsame
  | backslash => exact faithful_outside hlist hsame
  | quote =>
      refine faithful_outside (toggleQuote_inList.trans hlist) ?_
      rw [Step.onward, toggleQuote_value hlist, hsame]
  | lateQuote =>
      refine faithful_outside (toggleQuote_inList.trans hlist) ?_
      rw [Step.onward, toggleQuote_value (by exact hlist)]
      rfl
  | opening hescaped =>
      refine faithful_inList plain_inList ?_
      rw [Step.onward, plain_escaped]
      exact plain_scan_escaped (by exact h.blanks) (h.escaped.trans hescaped.symm)
        (by simp [hescaped]) (by simp) (by simp [hescaped])
  | closing =>
      refine faithful_outside (plain_inList.trans hlist) ?_
      rw [Step.onward, plain_scan_inString h.blanks (by decide), hsame]
  | plain _ _ hquote =>
      refine faithful_outside (plain_inList.trans hlist) ?_
      rw [Step.onward, plain_scan_inString h.blanks hquote, hsame]

end Outside

/-! ### A text with safe escapes -/

namespace Faithful

/-- Nothing but the value and where it stands matters. -/
theorem congr {t : Scanner} (h : s.Faithful) (hvalue : t.value = s.value)
    (hlist : t.inList = s.inList) (hescaped : t.escaped = s.escaped) : t.Faithful where
  inList := by
    rw [hvalue, hlist, hescaped]
    exact h.inList
  outside := by
    rw [hvalue, hlist]
    exact h.outside

/-- The machine and the reading of the value do not part at the next character. -/
theorem keeps (h : s.Faithful) (hstep : s.InStep) :
    s.losesEscape c = false ∧ s.opensQuoted c = false := by
  constructor
  · by_cases hlist : s.inList = true
    · have hsame := h.inList hlist
      rcases hstep with hwithin | houtside
      · have hwaiting := (waiting_of_blanks hwithin.blanks).2.2
        unfold losesEscape
        grind
      · rw [houtside.inList] at hlist
        exact absurd hlist (by decide)
    · simp [losesEscape, hlist]
  · by_cases hlist : s.inList = true
    · simp [opensQuoted, hlist]
    · simp [opensQuoted, h.outside (by simpa using hlist)]

theorem stepPlace (h : s.Faithful) (hstep : s.InStep)
    (hsafe : s.escaped = true → isSafe c = true) :
    (s.stepPlace c).onward.Faithful := by
  unfold Scanner.stepPlace
  split
  · rcases hstep with hwithin | houtside
    · exact hwithin.stepValue_faithful h hsafe
    · exact houtside.stepValue_faithful h hsafe
  · unfold stepKey Step.onward
    grind [h.congr]

theorem step (h : s.Faithful) (hstep : s.InStep)
    (hsafe : s.escaped = true → isSafe c = true) :
    (s.step c).onward.Faithful := by
  unfold Scanner.step
  split
  · split
    · have hoff : ({ s with inComment := false } : Scanner).Faithful := h.congr rfl rfl rfl
      exact hoff.stepPlace (hstep.congr rfl rfl rfl rfl rfl) hsafe
    · exact h
  · split
    · exact h.congr rfl rfl rfl
    · exact h.stepPlace hstep hsafe

theorem countLine (h : s.Faithful) (c : Char) : (s.countLine c).Faithful := by
  unfold Scanner.countLine
  split
  · exact h.congr rfl rfl rfl
  · exact h

theorem advance (h : s.Faithful) (hstep : s.InStep)
    (hsafe : s.escaped = true → isSafe c = true) :
    (s.advance c).1.Faithful := by
  rw [advance_eq_onward]
  exact (h.step hstep hsafe).countLine c

end Faithful

/-- **Where no backslash escapes a blank, a control character or a quote**, the machine and
the reading of a value never part. -/
theorem keepsStep_of_safeEscapes {text : List Char} (hstep : s.InStep)
    (hfollows : s.Follows escaped) (hfaithful : s.Faithful)
    (hsafe : safeEscapes escaped text = true) : s.keepsStep text = true := by
  induction text generalizing s escaped with
  | nil => rfl
  | cons c cs ih =>
      rw [safeEscapes, Bool.and_eq_true] at hsafe
      obtain ⟨hc, hrest⟩ := hsafe
      obtain ⟨hescape, hquoted⟩ := hfaithful.keeps hstep (c := c)
      have hsafe (hescaped : s.escaped = true) : isSafe c = true := by
        rw [hfollows.of_escaped hescaped] at hc
        exact hc
      have hnext := ih (hstep.advance hescape hquoted) (hfollows.advance c)
        (hfaithful.advance hstep hsafe) hrest
      rw [keepsStep, hescape, hquoted, hnext]
      rfl

end Scanner

end TerminalConfig
