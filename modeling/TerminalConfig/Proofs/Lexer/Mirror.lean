/-
Inside a list, the machine and the later reading of the list go hand in hand.

The machine keeps quotes and backslashes of a list and drops its layout: the blanks, the
control characters and the comments.  The reading of the list sees only what was kept.
`Mirrors` says that the machine stands where that reading stands after the value so far:
both are inside quotes or both outside, and both have just seen a backslash or neither
has.

One lemma for each class of characters says what it does to the pair.  What the lemmas
have in common is `Carries`, which composes, so a whole list is a chain of them.
-/
import TerminalConfig.Proofs.Lexer.Run
import TerminalConfig.Proofs.ListValue.Scan

namespace TerminalConfig

open ListValue Text

namespace Scanner

/-- The machine is inside a list, and `σ` is where the reading of its value stands. -/
structure Mirrors (s : Scanner) (σ : Scan) : Prop where
  inValue : s.inValue = true
  inList : s.inList = true
  inComment : s.inComment = false
  inString : s.inString = σ.inString
  escaped : s.escaped = σ.escaped
  value : scan s.value = σ
  /-- The blanks that wait make no difference to the reading. -/
  blanks : s.blanks.toList.foldl Scan.step σ = σ

/-- The text takes the machine from where it mirrors `σ` to where it mirrors `τ`, without
an event, and the key stays. -/
def Carries (cs : List Char) (σ τ : Scan) : Prop :=
  ∀ s : Scanner, s.Mirrors σ →
    ∃ next, s.run cs = (next, []) ∧ next.Mirrors τ ∧ next.key = s.key ∧ next.keyLine = s.keyLine

variable {σ τ υ : Scan} {c : Char}

theorem Carries.nil : Carries [] σ σ :=
  fun s hs => ⟨s, rfl, hs, rfl, rfl⟩

theorem Carries.append {cs ds : List Char} (hcs : Carries cs σ τ) (hds : Carries ds τ υ) :
    Carries (cs ++ ds) σ υ := by
  intro s hs
  obtain ⟨mid, hrun, hmid, hkey, hline⟩ := hcs s hs
  obtain ⟨last, hrun', hlast, hkey', hline'⟩ := hds mid hmid
  exact ⟨last, run_append hrun hrun', hlast, hkey'.trans hkey, hline'.trans hline⟩

theorem Carries.cons {cs : List Char} (hc : Carries [c] σ τ) (hcs : Carries cs τ υ) :
    Carries (c :: cs) σ υ :=
  hc.append hcs

/-- Counting a line moves nothing else. -/
theorem Mirrors.countLine {s : Scanner} (h : s.Mirrors σ) (c : Char) :
    (s.countLine c).Mirrors σ := by
  unfold Scanner.countLine
  split
  · exact { h with }
  · exact h

/-- One character carries the machine if a step of it does. -/
theorem Carries.of_step
    (h : ∀ s : Scanner, s.Mirrors σ →
      ∃ next, s.step c = .taken next none ∧ next.Mirrors τ ∧ next.key = s.key ∧
        next.keyLine = s.keyLine) :
    Carries [c] σ τ := by
  intro s hs
  obtain ⟨next, hstep, hnext, hkey, hline⟩ := h s hs
  refine ⟨next.countLine c, ?_, hnext.countLine c, ?_, ?_⟩
  · rw [run_singleton, advance_of_taken hstep]
    rfl
  · rw [countLine_key, hkey]
  · rw [countLine_keyLine, hline]

/-! ### What joins the value -/

/-- A character joins the value, after the blanks that wait. -/
theorem Mirrors.push {s : Scanner} (h : s.Mirrors σ) (c : Char) :
    ({ s.push c with inString := (σ.step c).inString,
                     escaped := (σ.step c).escaped } : Scanner).Mirrors (σ.step c) where
  inValue := h.inValue
  inList := h.inList
  inComment := h.inComment
  inString := rfl
  escaped := rfl
  value := by rw [Scanner.push, scan_push, scan_append, h.value, h.blanks]
  blanks := rfl

/-- A character that is part of an element joins the value. -/
theorem Mirrors.push_take {s : Scanner} (h : s.Mirrors σ) (htake : σ.step c = σ.take c) :
    ({ s.push c with escaped := false } : Scanner).Mirrors (σ.take c) := by
  have hpush := h.push c
  rw [htake, Scan.take_inString, Scan.take_escaped, ← h.inString] at hpush
  exact hpush

/-- Blanks that wait may be given up. -/
theorem Mirrors.dropBlanks {s : Scanner} (h : s.Mirrors σ) :
    ({ s with blanks := "" } : Scanner).Mirrors σ :=
  { h with blanks := rfl }

/-! ### What one character does -/

/-- A character inside a list is one of the value, unless it starts a comment. -/
theorem Mirrors.step_eq_stepValue {s : Scanner} (h : s.Mirrors σ)
    (hc : c ≠ '#' ∨ σ.escaped = true ∨ σ.inString = true) : s.step c = s.stepValue c := by
  have hcomment : (c == '#' && !s.escaped && !s.inString) = false := by
    rw [h.escaped, h.inString]
    grind
  simp only [step, stepPlace, h.inComment, hcomment, h.inValue, Bool.false_eq_true, if_false,
    if_true]

/-- A character that means nothing where it stands stands for itself. -/
theorem Mirrors.step_eq_plain {s : Scanner} (h : s.Mirrors σ)
    (hc : σ.escaped = true ∨
      (c ≠ '"' ∧ c ≠ '\\' ∧ (σ.inString = true ∨ c ∉ ['[', ']', '#']))) :
    s.step c = .taken (s.plain c) none := by
  have hvalue : c ≠ '#' ∨ σ.escaped = true ∨ σ.inString = true := by grind
  rw [h.step_eq_stepValue hvalue, stepValue, h.inList, h.escaped, h.inString]
  grind

/-- A character that stands for itself joins the value, unless it is a control character
or a blank outside quotes. -/
theorem Mirrors.plain_eq_push {s : Scanner} (h : s.Mirrors σ) (hcontrol : isControl c = false)
    (hc : (σ.inString = true ∧ c ≠ '[' ∧ c ≠ ']') ∨
      (σ.inString = false ∧ isBlank c = false)) :
    s.plain c = { s.push c with escaped := false } := by
  unfold plain
  rw [h.inString, hcontrol]
  rcases hc with ⟨hstring, hopen, hclose⟩ | ⟨hstring, hblank⟩
  · simp [hstring, hopen, hclose]
  · simp [hstring, hblank]

theorem carries_backslash (hescaped : σ.escaped = false) :
    Carries ['\\'] σ (σ.step '\\') := by
  refine Carries.of_step fun s hs => ⟨_, ?_, hs.push '\\', rfl, rfl⟩
  rw [hs.step_eq_stepValue (Or.inl (by decide)), Scan.step_backslash hescaped]
  simp [stepValue, Scanner.push, hs.inList, hs.escaped, hs.inString, hescaped]

theorem carries_opening_quote (hescaped : σ.escaped = false) (hstring : σ.inString = false) :
    Carries ['"'] σ (σ.step '"') := by
  refine Carries.of_step fun s hs => ⟨_, ?_, hs.dropBlanks.push '"', rfl, rfl⟩
  rw [hs.step_eq_stepValue (Or.inl (by decide)), Scan.step_opening_quote hescaped hstring]
  simp [stepValue, stepQuote, toggleQuote, Scanner.push, hs.inList, hs.escaped, hs.inString,
    hescaped, hstring]

theorem carries_closing_quote (hescaped : σ.escaped = false) (hstring : σ.inString = true) :
    Carries ['"'] σ (σ.step '"') := by
  refine Carries.of_step fun s hs => ⟨_, ?_, hs.push '"', rfl, rfl⟩
  rw [hs.step_eq_stepValue (Or.inl (by decide)), Scan.step_closing_quote hescaped hstring]
  simp [stepValue, stepQuote, toggleQuote, Scanner.push, hs.inList, hs.escaped, hs.inString,
    hescaped, hstring]

/-- A comma outside quotes ends an element. -/
theorem carries_comma (hescaped : σ.escaped = false) (hstring : σ.inString = false) :
    Carries [','] σ (σ.step ',') := by
  refine Carries.of_step fun s hs => ⟨_, ?_, hs.push ',', rfl, rfl⟩
  rw [hs.step_eq_plain (Or.inr ⟨by decide, by decide, Or.inr (by decide)⟩),
    hs.plain_eq_push (by decide) (Or.inr ⟨hstring, by decide⟩), Scan.step_comma hescaped hstring]
  simp [Scanner.push, hs.inString, hescaped]

/-- A character after a backslash is part of an element, whatever it is. -/
theorem carries_escaped (hescaped : σ.escaped = false) (hcontrol : isControl c = false)
    (hc : (σ.inString = true ∧ c ≠ '[' ∧ c ≠ ']') ∨
      (σ.inString = false ∧ isBlank c = false)) :
    Carries ['\\', c] σ (σ.take c) := by
  refine Carries.cons (carries_backslash hescaped) ?_
  rw [Scan.step_backslash hescaped, ← Scan.step_after_backslash]
  refine Carries.of_step fun s hs => ⟨_, ?_, hs.push_take Scan.step_after_backslash, rfl, rfl⟩
  rw [hs.step_eq_plain (Or.inl rfl), hs.plain_eq_push hcontrol hc]

/-- A character that stands for itself outside quotes is part of an element. -/
theorem carries_bare (hescaped : σ.escaped = false) (hstring : σ.inString = false)
    (hcontrol : isControl c = false) (hblank : isBlank c = false)
    (hc : c ∉ ['[', ']', ',', '\\', '"', '#']) : Carries [c] σ (σ.take c) := by
  simp only [List.mem_cons, List.not_mem_nil, not_or, or_false] at hc
  obtain ⟨hopen, hclose, hcomma, hbackslash, hquote, hcomment⟩ := hc
  have htake : σ.step c = σ.take c :=
    Scan.step_plain hescaped hquote hbackslash (Or.inr (by simp [hopen, hclose, hcomma]))
  refine Carries.of_step fun s hs => ⟨_, ?_, hs.push_take htake, rfl, rfl⟩
  rw [hs.step_eq_plain (Or.inr ⟨hquote, hbackslash, Or.inr (by simp [hopen, hclose, hcomment])⟩),
    hs.plain_eq_push hcontrol (Or.inr ⟨hstring, hblank⟩)]

/-- A quoted character that stands for itself is part of an element.  A bracket gets a
backslash on the way. -/
theorem carries_quoted (hescaped : σ.escaped = false) (hstring : σ.inString = true)
    (hcontrol : isControl c = false) (hquote : c ≠ '"') (hbackslash : c ≠ '\\') :
    Carries [c] σ (σ.take c) := by
  have hstep {s : Scanner} (hs : s.Mirrors σ) : s.step c = .taken (s.plain c) none :=
    hs.step_eq_plain (Or.inr ⟨hquote, hbackslash, Or.inl hstring⟩)
  by_cases hbracket : c = '[' ∨ c = ']'
  · have htake : (σ.step '\\').take c = σ.take c := by
      rw [Scan.step_backslash hescaped]
      rfl
    rw [← htake]
    refine Carries.of_step fun s hs => ⟨_, ?_, (hs.push '\\').push_take ?_, rfl, rfl⟩
    · rw [hstep hs, Scan.step_backslash hescaped]
      rcases hbracket with rfl | rfl <;>
        simp [plain, Scanner.push, hs.inString, hstring, isControl]
    · rw [Scan.step_backslash hescaped, Scan.step_after_backslash]
      rfl
  · rw [not_or] at hbracket
    have htake : σ.step c = σ.take c :=
      Scan.step_plain hescaped hquote hbackslash (Or.inl hstring)
    refine Carries.of_step fun s hs => ⟨_, ?_, hs.push_take htake, rfl, rfl⟩
    rw [hstep hs, hs.plain_eq_push hcontrol (Or.inl ⟨hstring, hbracket⟩)]

/-! ### Layout -/

/-- Text that means nothing around the elements of a list. -/
inductive Layout : List Char → Prop
  | nil : Layout []
  | space {c : Char} {cs : List Char} (hc : isBlank c = true ∨ isControl c = true)
      (hcs : Layout cs) : Layout (c :: cs)
  | comment {body cs : List Char} (hbody : '\n' ∉ body) (hcs : Layout cs) :
      Layout ('#' :: (body ++ '\n' :: cs))

/-- A blank joins those that wait. -/
theorem Mirrors.pushBlank {s : Scanner} (h : s.Mirrors σ) (hescaped : σ.escaped = false)
    (hstring : σ.inString = false) (hc : isBlank c = true) :
    ({ s with blanks := s.blanks.push c } : Scanner).Mirrors σ :=
  { h with
    blanks := by
      rw [String.toList_push, List.foldl_append, h.blanks, List.foldl_cons, List.foldl_nil,
        Scan.step_blank hescaped hstring hc] }

/-- Layout outside quotes is dropped, or waits if it is a blank. -/
theorem Mirrors.plain_space {s : Scanner} (h : s.Mirrors σ) (hescaped : σ.escaped = false)
    (hstring : σ.inString = false) (hc : isBlank c = true ∨ isControl c = true) :
    s.plain c = s ∨ isBlank c = true ∧ s.plain c = { s with blanks := s.blanks.push c } := by
  have hsame : s.escaped = false := h.escaped.trans hescaped
  unfold plain
  by_cases hcontrol : isControl c = true
  · rw [if_pos hcontrol, ← hsame]
    exact Or.inl rfl
  · have hblank : isBlank c = true := hc.resolve_right hcontrol
    have houtside : (s.inString || !isBlank c) = false := by
      rw [h.inString, hstring, hblank]
      rfl
    rw [if_neg hcontrol, houtside, if_neg Bool.false_ne_true, ← hsame]
    split
    · exact Or.inr ⟨hblank, rfl⟩
    · exact Or.inl rfl

theorem carries_space (hescaped : σ.escaped = false) (hstring : σ.inString = false)
    (hc : isBlank c = true ∨ isControl c = true) : Carries [c] σ σ := by
  have hquote : c ≠ '"' := by
    rintro rfl
    exact absurd hc (by decide)
  have hbackslash : c ≠ '\\' := by
    rintro rfl
    exact absurd hc (by decide)
  have hother : c ∉ ['[', ']', '#'] := by
    intro hmem
    simp only [List.mem_cons, List.not_mem_nil, or_false] at hmem
    rcases hmem with rfl | rfl | rfl <;> exact absurd hc (by decide)
  refine Carries.of_step fun s hs => ?_
  have hstep := hs.step_eq_plain (Or.inr ⟨hquote, hbackslash, Or.inr hother⟩)
  rcases hs.plain_space hescaped hstring hc with hplain | ⟨hblank, hplain⟩
  · exact ⟨s, by rw [hstep, hplain], hs, rfl, rfl⟩
  · exact ⟨_, by rw [hstep, hplain], hs.pushBlank hescaped hstring hblank, rfl, rfl⟩

/-- Layout makes no difference. -/
theorem carries_layout (hescaped : σ.escaped = false) (hstring : σ.inString = false)
    {cs : List Char} (hcs : Layout cs) : Carries cs σ σ := by
  induction hcs with
  | nil => exact Carries.nil
  | space hc _ ih => exact Carries.cons (carries_space hescaped hstring hc) ih
  | @comment body cs hbody _ ih =>
      intro s hs
      rw [run_comment hs.inComment (hs.escaped.trans hescaped) (hs.inString.trans hstring) hbody]
      exact Carries.cons (carries_space hescaped hstring (Or.inr (by decide))) ih s hs

end Scanner

end TerminalConfig
