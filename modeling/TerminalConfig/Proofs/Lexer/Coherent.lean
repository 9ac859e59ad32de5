/-
What the machine may hold.

The fields of the machine are not free.  Outside a value nothing of a value is held, a
comment is neither inside quotes nor behind a backslash, and blanks wait only behind text
that is outside quotes.  An open list has its bracket in the value, where the later reading
finds it.  `Coherent` gathers these facts, and every character keeps them, also one that
shows a problem, and whether the reading carries on after it or is stopped.

The bracket is the one fact that does not carry itself.  When a list opens, the later
reading finds the bracket only if what was kept before it does not end in a backslash that
escapes.  Outside lists such a backslash is kept with a quoted bracket behind it and nowhere
else, so a value that is no list never ends in one.
-/
import TerminalConfig.Proofs.Lexer.InStep
import TerminalConfig.Proofs.Lexer.Line

namespace TerminalConfig

open ListValue Text

/-- A text with no control characters but newlines. -/
def IsLegible (text : String) : Prop :=
  ∀ c ∈ text.toList, isControl c = true → c = '\n'

instance (text : String) : Decidable (IsLegible text) :=
  List.decidableBAll _ text.toList

namespace Scanner

/-- The fields of the machine go together. -/
structure Coherent (s : Scanner) : Prop where
  idle : s.IdleOutside
  comment : s.inComment = true → s.inString = false ∧ s.escaped = false
  /-- The value of an open list is taken apart as a list. -/
  list : s.inList = true → isList s.value = true
  /-- Blanks wait behind text outside quotes. -/
  blanks : s.blanks ≠ "" → s.inValue = true ∧ s.value ≠ "" ∧ s.inString = false
  /-- A tab is a control character, so it does not wait. -/
  spaces : ∀ c ∈ s.blanks.toList, c = ' '
  key : ∀ c ∈ s.key.toList, isKeyChar c = true
  value : IsLegible s.value
  /-- A value that is no list does not end in a backslash that escapes. -/
  ending : isList s.value = false → (scan s.value).escaped = false
  keyLine : s.keyLine ≤ s.line

variable {s : Scanner} {c : Char}

theorem coherent_start : ({} : Scanner).Coherent where
  idle := idleOutside_start
  comment := by simp
  list := by simp
  blanks := by simp
  spaces := by simp
  key := by simp
  value := by simp [IsLegible]
  ending := fun _ => rfl
  keyLine := Nat.zero_le 1

theorem isLegible_push {value : String} (h : IsLegible value) (hc : isControl c = true → c = '\n') :
    IsLegible (value.push c) := by
  intro d hd
  rw [String.toList_push, List.mem_append, List.mem_singleton] at hd
  rcases hd with hd | rfl
  · exact h d hd
  · exact hc

/-- No blanks are left at a quote. -/
theorem toggleQuote_eq (hblanks : s.inString = true → s.blanks = "") :
    s.toggleQuote =
      if s.inList then ({ s with blanks := "", inString := !s.inString } : Scanner).push '"'
      else { s with blanks := "", inString := !s.inString } := by
  unfold Scanner.toggleQuote
  by_cases hstring : s.inString = true
  · have hsame : ({ s with blanks := "" } : Scanner) = s := by rw [← hblanks hstring]
    simp only [hstring, if_true]
    rw [← hsame]
  · simp only [hstring]
    rfl

namespace Coherent

theorem isBlank_blanks (h : s.Coherent) : ∀ d ∈ s.blanks.toList, isBlank d = true := by
  intro d hd
  rw [h.spaces d hd]
  rfl

theorem isLegible_waiting (h : s.Coherent) : IsLegible (s.value ++ s.blanks) := by
  intro d hd
  rw [String.toList_append, List.mem_append] at hd
  rcases hd with hd | hd
  · exact h.value d hd
  · rw [h.spaces d hd]
    exact fun hcontrol => absurd hcontrol (by decide)

/-- The blanks that wait end in no backslash either. -/
theorem waiting_escaped (h : s.Coherent) (hscalar : isList s.value = false) :
    s.waiting.escaped = false := by
  have hvalue := h.ending hscalar
  have hwaiting := (waiting_of_blanks h.isBlank_blanks).2.2
  grind

/-- A value that is a list stays one. -/
theorem isList_push (h : s.Coherent) (hlist : isList s.value = true) (c : Char) :
    isList (s.push c).value = true := by
  rw [isList_value_push h.isBlank_blanks, hlist, Bool.true_or]

/-! ### Inside a value -/

/-- What is held of a value may change as long as it goes together. -/
theorem update (h : s.Coherent) (hvalue : s.inValue = true) (hcomment : s.inComment = false)
    {value blanks : String} {inString inList escaped : Bool}
    (hlist : inList = true → isList value = true)
    (hblanks : blanks ≠ "" → value ≠ "" ∧ inString = false)
    (hspaces : ∀ c ∈ blanks.toList, c = ' ') (hlegible : IsLegible value)
    (hending : isList value = false → (scan value).escaped = false) :
    ({ s with value := value, blanks := blanks, inString := inString, inList := inList,
              escaped := escaped } : Scanner).Coherent where
  idle := fun hidle => absurd (hvalue.symm.trans hidle) (by decide)
  comment := fun hopen => absurd (hcomment.symm.trans hopen) (by decide)
  list := hlist
  blanks := fun hne => ⟨hvalue, hblanks hne⟩
  spaces := hspaces
  key := h.key
  value := hlegible
  ending := hending
  keyLine := h.keyLine

/-- A character joins the value.  A backslash does so only in a list, and a list may open
with a bracket. -/
theorem push (h : s.Coherent) (hvalue : s.inValue = true) (hcomment : s.inComment = false)
    (hc : isControl c = true → c = '\n') (hbackslash : c = '\\' → isList s.value = true)
    {inString inList escaped : Bool} (hlist : inList = true → s.inList = true ∨ c = '[') :
    ({ s.push c with inString := inString, inList := inList, escaped := escaped } :
      Scanner).Coherent := by
  refine h.update hvalue hcomment (fun hopen => ?_) (by simp [Scanner.push])
    (by simp [Scanner.push]) (isLegible_push h.isLegible_waiting hc) fun hscalar => ?_
  · by_cases hbefore : isList s.value = true
    · exact h.isList_push hbefore c
    · rw [Bool.not_eq_true] at hbefore
      rw [isList_value_push h.isBlank_blanks, h.waiting_escaped hbefore]
      rcases hlist hopen with hinside | rfl
      · rw [h.list hinside, Bool.true_or]
      · rw [Bool.not_false, Bool.and_true, beq_self_eq_true, Bool.or_true]
  · rw [scan_value_push, Scan.step_escaped]
    by_cases hbefore : isList s.value = true
    · rw [h.isList_push hbefore c] at hscalar
      exact absurd hscalar (by decide)
    · simp [mt hbackslash hbefore]

/-- A bracket inside quotes joins the value behind a backslash. -/
theorem push_bracket (h : s.Coherent) (hvalue : s.inValue = true) (hcomment : s.inComment = false)
    (hc : c = '[' ∨ c = ']') :
    ({ (s.push '\\').push c with escaped := false } : Scanner).Coherent := by
  have hnone : ∀ d ∈ (s.push '\\').blanks.toList, isBlank d = true := by simp [Scanner.push]
  have hlegible : IsLegible (s.push '\\').value := isLegible_push h.isLegible_waiting (by decide)
  have hpair : IsLegible ((s.push '\\').value ++ (s.push '\\').blanks) := by
    rw [show (s.push '\\').blanks = "" from rfl, String.append_empty]
    exact hlegible
  refine h.update hvalue hcomment (fun hopen => ?_) (by simp [Scanner.push])
    (by simp [Scanner.push]) (isLegible_push hpair ?_) fun _ => ?_
  · rw [isList_value_push hnone, h.isList_push (h.list hopen), Bool.true_or]
  · rcases hc with rfl | rfl <;> decide
  · rw [scan_value_push, Scan.step_escaped]
    rcases hc with rfl | rfl <;> rfl

theorem setEscaped (h : s.Coherent) (hvalue : s.inValue = true) (hcomment : s.inComment = false)
    (escaped : Bool) : ({ s with escaped := escaped } : Scanner).Coherent :=
  h.update hvalue hcomment h.list (fun hne => (h.blanks hne).2) h.spaces h.value h.ending

/-- A character that stands for itself. -/
theorem plain (h : s.Coherent) (hvalue : s.inValue = true) (hcomment : s.inComment = false)
    (hbackslash : c = '\\' → isList s.value = true) : (s.plain c).Coherent := by
  unfold Scanner.plain
  split
  · exact h.setEscaped hvalue hcomment false
  rename_i hcontrol
  have hc : isControl c = true → c = '\n' := fun htrue => absurd htrue hcontrol
  split
  · split
    · rename_i hbracket
      rw [Bool.and_eq_true, Bool.or_eq_true, beq_iff_eq, beq_iff_eq] at hbracket
      exact h.push_bracket hvalue hcomment hbracket.2
    · exact h.push hvalue hcomment hc hbackslash Or.inl
  · rename_i hblank
    rw [Bool.or_eq_true, not_or, Bool.not_eq_true, Bool.not_eq_true', Bool.not_eq_false] at hblank
    split
    · rename_i hne
      refine h.update hvalue hcomment h.list (fun _ => ⟨by simpa using hne, hblank.1⟩) ?_ h.value
        h.ending
      intro d hd
      rw [String.toList_push, List.mem_append, List.mem_singleton] at hd
      rcases hd with hd | rfl
      · exact h.spaces d hd
      · have hboth := hblank.2
        rw [isBlank, Bool.or_eq_true, beq_iff_eq, beq_iff_eq] at hboth
        rcases hboth with rfl | rfl
        · rfl
        · exact absurd rfl hcontrol
    · exact h.setEscaped hvalue hcomment false

theorem blanks_of_inString (h : s.Coherent) (hstring : s.inString = true) : s.blanks = "" := by
  by_contra hne
  exact absurd (hstring.symm.trans (h.blanks hne).2.2) (by decide)

theorem dropBlanks (h : s.Coherent) (hvalue : s.inValue = true) (hcomment : s.inComment = false) :
    ({ s with blanks := "" } : Scanner).Coherent :=
  h.update hvalue hcomment h.list (by simp) (by simp) h.value h.ending

/-- A quote opens or closes a quoted part. -/
theorem toggleQuote (h : s.Coherent) (hvalue : s.inValue = true) (hcomment : s.inComment = false) :
    s.toggleQuote.Coherent := by
  rw [toggleQuote_eq h.blanks_of_inString]
  split
  · exact (h.dropBlanks hvalue hcomment).push hvalue hcomment (by decide) (by simp) Or.inl
  · exact h.update hvalue hcomment h.list (by simp) (by simp) h.value h.ending

/-- Outside lists a quote may give up the text before it. -/
theorem giveUp (h : s.Coherent) (hvalue : s.inValue = true) (hcomment : s.inComment = false)
    (hlist : s.inList = false) : ({ s with value := "" } : Scanner).toggleQuote.Coherent := by
  rw [toggleQuote_eq (s := { s with value := "" }) h.blanks_of_inString,
    if_neg (by simp [hlist])]
  exact h.update hvalue hcomment (fun hopen => absurd (hlist.symm.trans hopen) (by decide))
    (by simp) (by simp) (by simp [IsLegible]) fun _ => rfl

/-- A list opens. -/
theorem opening (h : s.Coherent) (hvalue : s.inValue = true) (hcomment : s.inComment = false)
    (hstring : s.inString = false) :
    (({ s with inList := true } : Scanner).plain '[').Coherent := by
  have hplain : ({ s with inList := true } : Scanner).plain '[' =
      { s.push '[' with inList := true, escaped := false } := by
    simp [Scanner.plain, hstring, isControl, isBlank, Scanner.push]
  rw [hplain]
  exact h.push hvalue hcomment (by decide) (by simp) fun _ => Or.inr rfl

/-- A list closes. -/
theorem closing (h : s.Coherent) (hvalue : s.inValue = true) (hcomment : s.inComment = false) :
    (({ s with inList := false } : Scanner).plain ']').Coherent := by
  have hclosed : ({ s with inList := false } : Scanner).Coherent :=
    h.update hvalue hcomment (by simp) (fun hne => (h.blanks hne).2) h.spaces h.value h.ending
  exact hclosed.plain hvalue hcomment (by simp)

/-- The line of a value ends. -/
theorem afterValue (h : s.Coherent) (hcomment : s.inComment = false) (hlist : s.inList = false) :
    s.afterValue.Coherent where
  idle := fun _ => ⟨rfl, rfl, rfl, hlist, rfl⟩
  comment := fun hopen => absurd (hcomment.symm.trans hopen) (by decide)
  list := fun hopen => absurd (hlist.symm.trans hopen) (by decide)
  blanks := by simp [Scanner.afterValue]
  spaces := by simp [Scanner.afterValue]
  key := by simp [Scanner.afterValue]
  value := by simp [Scanner.afterValue, IsLegible]
  ending := fun _ => rfl
  keyLine := h.keyLine

theorem stepValue (h : s.Coherent) (hvalue : s.inValue = true) (hcomment : s.inComment = false) :
    (s.stepValue c).Leads Coherent := by
  by_cases hlist : s.inList = true
  · have hkept := h.list hlist
    have hstep := stepValue_listStep (c := c) hlist
    generalize s.stepValue c = step at hstep ⊢
    cases hstep with
    | escaped => exact h.plain hvalue hcomment fun _ => hkept
    | backslash => exact h.push hvalue hcomment (by decide) (fun _ => hkept) Or.inl
    | quote => exact h.toggleQuote hvalue hcomment
    | opening => exact ⟨h.plain hvalue hcomment fun _ => hkept, h⟩
    | closing => exact h.closing hvalue hcomment
    | plain => exact h.plain hvalue hcomment fun _ => hkept
  · rw [Bool.not_eq_true] at hlist
    have hstep := stepValue_textStep (c := c) hlist
    generalize s.stepValue c = step at hstep ⊢
    cases hstep with
    | newline => exact h.afterValue hcomment hlist
    | openLine => exact ⟨h.afterValue hcomment hlist, h.afterValue hcomment hlist⟩
    | escapedNewline => exact h.push hvalue hcomment (fun _ => rfl) (by simp) Or.inl
    | escapedQuote => exact h.push hvalue hcomment (by decide) (by simp) Or.inl
    | badEscape => exact ⟨h.setEscaped hvalue hcomment false, h⟩
    | backslash => exact h.setEscaped hvalue hcomment true
    | quote => exact h.toggleQuote hvalue hcomment
    | lateQuote => exact ⟨h.giveUp hvalue hcomment hlist, h⟩
    | opening _ hstring => exact h.opening hvalue hcomment hstring
    | closing => exact ⟨h.plain hvalue hcomment (by simp), h⟩
    | plain _ hbackslash =>
        exact h.plain hvalue hcomment fun hc => absurd hc hbackslash

/-! ### Outside a value -/

theorem stepKey (h : s.Coherent) (hvalue : s.inValue = false) (hc : c ≠ '#') :
    (s.stepKey c).Leads Coherent := by
  have hidle := h.idle hvalue
  unfold Scanner.stepKey
  split
  · exact {
      h with
      idle := by simp [IdleOutside]
      blanks := fun hne => absurd hidle.blanks hne
      keyLine := Nat.le_refl _ }
  · rename_i hequals
    split
    · exact { h with idle := fun _ => { hidle with }, key := by simp }
    split
    · exact h
    · rename_i hkept
      refine { h with idle := fun _ => { hidle with }, key := fun d hd => ?_ }
      rw [String.toList_push, List.mem_append, List.mem_singleton] at hd
      rcases hd with hd | rfl
      · exact h.key d hd
      · simp_all [isKeyChar]

theorem stepPlace (h : s.Coherent) (hcomment : s.inComment = false)
    (hc : c = '#' → s.escaped = true ∨ s.inString = true) : (s.stepPlace c).Leads Coherent := by
  unfold Scanner.stepPlace
  split
  · rename_i hvalue
    exact h.stepValue hvalue hcomment
  · rename_i hvalue
    rw [Bool.not_eq_true] at hvalue
    have hidle := h.idle hvalue
    refine h.stepKey hvalue fun hhash => ?_
    have hopen := hc hhash
    rw [hidle.escaped, hidle.inString] at hopen
    simp at hopen

/-- A comment opens or ends. -/
theorem setComment (h : s.Coherent) (inComment : Bool)
    (hquiet : inComment = true → s.inString = false ∧ s.escaped = false) :
    ({ s with inComment := inComment } : Scanner).Coherent :=
  { h with
    idle := fun hvalue => { h.idle hvalue with }
    comment := hquiet }

/-- **Every character keeps the fields together.** -/
theorem step (h : s.Coherent) (c : Char) : (s.step c).Leads Coherent := by
  unfold Scanner.step
  split
  · split
    · rename_i hnewline
      exact (h.setComment false (by simp)).stepPlace rfl (by simp_all)
    · exact h
  · rename_i hcomment
    split
    · rename_i hhash
      exact h.setComment true fun _ => by simp_all
    · exact h.stepPlace (by simpa using hcomment) (by grind)

theorem countLine (h : s.Coherent) (c : Char) : (s.countLine c).Coherent := by
  unfold Scanner.countLine
  split
  · exact { h with
      idle := fun hvalue => { h.idle hvalue with }
      keyLine := Nat.le_succ_of_le h.keyLine }
  · exact h

theorem advance (h : s.Coherent) (c : Char) : (s.advance c).1.Coherent :=
  advance_of_leads (fun _ ht => ht.countLine c) (h.step c)

theorem run (h : s.Coherent) (text : List Char) : (s.run text).1.Coherent := by
  induction text generalizing s with
  | nil => exact h
  | cons c cs ih => exact ih (h.advance c)

end Coherent

/-! ### Newlines of a value -/

/-- How many newlines a text has. -/
def newlines (text : String) : Nat :=
  text.toList.count '\n'

/-- The character is the second of the escape that stands for a newline. -/
def escapesNewline (s : Scanner) (c : Char) : Bool :=
  s.inValue && !s.inComment && !s.inList && s.escaped && c == 'n'

theorem newlines_push (hblanks : newlines s.blanks = 0) (c : Char) :
    newlines (s.push c).value = newlines s.value + if c = '\n' then 1 else 0 := by
  unfold newlines at hblanks ⊢
  rw [Scanner.push, String.toList_push, String.toList_append, List.count_append, List.count_append,
    hblanks, List.count_singleton]
  simp

theorem newlines_push_of_ne (hblanks : newlines s.blanks = 0) (hc : c ≠ '\n') :
    newlines (s.push c).value = newlines s.value := by
  rw [newlines_push hblanks, if_neg hc, Nat.add_zero]

/-- A newline does not stand for itself. -/
theorem newlines_plain (hblanks : newlines s.blanks = 0) (c : Char) :
    newlines (s.plain c).value = newlines s.value := by
  unfold plain
  split
  · rfl
  rename_i hcontrol
  have hc : c ≠ '\n' := by
    rintro rfl
    exact hcontrol rfl
  split
  · split
    · exact (newlines_push_of_ne (s := s.push '\\') rfl hc).trans
        (newlines_push_of_ne hblanks (by decide))
    · exact newlines_push_of_ne hblanks hc
  · split <;> rfl

theorem newlines_toggleQuote (hblanks : s.inString = true → s.blanks = "") :
    newlines s.toggleQuote.value = newlines s.value := by
  rw [toggleQuote_eq hblanks]
  split
  · exact newlines_push_of_ne (s := { s with blanks := "", inString := !s.inString }) rfl
      (by decide)
  · rfl

theorem stepKey_value : (s.stepKey c).Leads fun next => next.value = s.value := by
  unfold stepKey
  split
  · rfl
  split
  · rfl
  split <;> rfl

namespace Coherent

theorem newlines_blanks (h : s.Coherent) : newlines s.blanks = 0 := by
  refine List.count_eq_zero.mpr fun hmem => ?_
  exact absurd (h.spaces '\n' hmem) (by decide)

theorem newlines_stepValue (h : s.Coherent) (hvalue : s.inValue = true)
    (hcomment : s.inComment = false) :
    (s.stepValue c).Leads fun next =>
      newlines next.value ≤ newlines s.value + (s.escapesNewline c).toNat := by
  have hblanks := h.newlines_blanks
  have hplain (d : Char) : newlines (s.plain d).value ≤
      newlines s.value + (s.escapesNewline d).toNat :=
    (newlines_plain hblanks d).trans_le (Nat.le_add_right _ _)
  by_cases hlist : s.inList = true
  · have hstep := stepValue_listStep (c := c) hlist
    generalize s.stepValue c = step at hstep ⊢
    cases hstep with
    | escaped => exact hplain c
    | backslash =>
        exact (newlines_push_of_ne hblanks (by decide)).trans_le (Nat.le_add_right _ _)
    | quote => exact (newlines_toggleQuote h.blanks_of_inString).trans_le (Nat.le_add_right _ _)
    | opening => exact ⟨hplain '[', Nat.le_add_right _ _⟩
    | closing =>
        exact (newlines_plain (s := { s with inList := false }) hblanks ']').trans_le
          (Nat.le_add_right _ _)
    | plain => exact hplain c
  · rw [Bool.not_eq_true] at hlist
    have hstep := stepValue_textStep (c := c) hlist
    generalize s.stepValue c = step at hstep ⊢
    cases hstep with
    | newline => exact Nat.zero_le _
    | openLine => exact ⟨Nat.zero_le _, Nat.zero_le _⟩
    | escapedNewline hescaped =>
        have hsecond : s.escapesNewline 'n' = true := by
          simp [escapesNewline, hvalue, hcomment, hlist, hescaped]
        rw [hsecond]
        exact (newlines_push hblanks '\n').le
    | escapedQuote =>
        exact (newlines_push_of_ne hblanks (by decide)).trans_le (Nat.le_add_right _ _)
    | badEscape => exact ⟨Nat.le_add_right _ _, Nat.le_add_right _ _⟩
    | backslash => exact Nat.le_add_right _ _
    | quote => exact (newlines_toggleQuote h.blanks_of_inString).trans_le (Nat.le_add_right _ _)
    | lateQuote =>
        exact ⟨(newlines_toggleQuote (s := { s with value := "" }) h.blanks_of_inString).trans_le
          (Nat.zero_le _), Nat.le_add_right _ _⟩
    | opening =>
        exact (newlines_plain (s := { s with inList := true }) hblanks '[').trans_le
          (Nat.le_add_right _ _)
    | closing => exact ⟨hplain ']', Nat.le_add_right _ _⟩
    | plain => exact hplain c

theorem newlines_stepPlace (h : s.Coherent) (hcomment : s.inComment = false) (c : Char) :
    (s.stepPlace c).Leads fun next =>
      newlines next.value ≤ newlines s.value + (s.escapesNewline c).toNat := by
  unfold Scanner.stepPlace
  split
  · rename_i hvalue
    exact h.newlines_stepValue hvalue hcomment
  · refine stepKey_value.imp fun next hnext => ?_
    rw [hnext]
    exact Nat.le_add_right _ _

/-- **A newline joins the value as an escape and in no other way.** -/
theorem newlines_step (h : s.Coherent) (c : Char) :
    (s.step c).Leads fun next =>
      newlines next.value ≤ newlines s.value + (s.escapesNewline c).toNat := by
  unfold Scanner.step
  split
  · split
    · rename_i hnewline
      obtain rfl : c = '\n' := by simpa using hnewline
      refine ((h.setComment false (by simp)).newlines_stepPlace rfl '\n').imp fun next hnext => ?_
      simpa [escapesNewline] using hnext
    · exact Nat.le_add_right _ _
  · rename_i hcomment
    split
    · exact Nat.le_add_right _ _
    · exact h.newlines_stepPlace (by simpa using hcomment) c

end Coherent

end Scanner

end TerminalConfig
