/-
The text of a list and the value it is read into.

The value of a list is not quite its text: blanks before an opening quote are gone, and brackets
between quotes have a backslash that nobody wrote.  Taken apart, the value should all the same
give the elements that the text itself would give.

It does unless an escape is lost, and there are two ways to lose one.  A blank outside quotes
waits, also if it is escaped, and an opening quote gives up what waits; the backslash has been
kept by then, and escapes the quote.  A bracket between quotes gets a backslash, also if it is
escaped; its own backslash then escapes the new one.

Either way an element gets a quote or a backslash that is not in the text, and nothing ever takes
one away again.  So `lostEscapes` counts both along the text.  As long as it counts none, the
reading of the value stands where the reading of the text stands, and from then on it has that
many quotes and backslashes more.
-/
import TerminalConfig.Proofs.Lexer.Headings
import TerminalConfig.Proofs.Lexer.ListLine
import TerminalConfig.Proofs.Lexer.Coherent
import TerminalConfig.Proofs.Lexer.PlainLine

namespace TerminalConfig

open ListValue Text

namespace ListValue

/-! ### Quotes and backslashes of the elements -/

/-- How many quotes and backslashes the elements have. -/
def specials (elements : List String) : Nat :=
  (elements.flatMap String.toList).countP Scanner.isSpecialQuoted

theorem specials_append (es more : List String) :
    specials (es ++ more) = specials es + specials more := by
  rw [specials, List.flatMap_append, List.countP_append, specials, specials]

theorem specials_singleton (e : String) :
    specials [e] = e.toList.countP Scanner.isSpecialQuoted := by
  rw [specials, List.flatMap_singleton]

namespace Scan

variable {σ τ : Scan} {c : Char}

theorem isSpecialQuoted_of_blank (hc : isBlank c = true) : Scanner.isSpecialQuoted c = false := by
  unfold isBlank at hc
  unfold Scanner.isSpecialQuoted
  grind

theorem countP_isSpecialQuoted_blanks (h : σ.OnlyBlanks) :
    σ.blanks.toList.countP Scanner.isSpecialQuoted = 0 := by
  refine List.countP_eq_zero.mpr fun c hc => ?_
  rw [isSpecialQuoted_of_blank (h c hc)]
  exact Bool.false_ne_true

theorem specials_take (h : σ.OnlyBlanks) (c : Char) :
    specials (σ.take c).elements =
      specials σ.elements + (Scanner.isSpecialQuoted c).toNat := by
  have hcount := countP_isSpecialQuoted_blanks h
  by_cases hc : isBlank c = true
  · -- a blank is dropped, waits or opens the element
    have hplain := isSpecialQuoted_of_blank hc
    rw [hplain, Bool.toNat_false, Nat.add_zero]
    unfold take
    dsimp only
    split
    · rfl
    split
    · rfl
    · simp [elements, specials_append, specials_singleton, hcount, hplain]
  · rw [Bool.not_eq_true] at hc
    rw [take_solid hc, elements, elements, specials_append, specials_append, specials_singleton,
      specials_singleton, String.toList_push, String.toList_append, List.countP_append,
      List.countP_append, hcount, List.countP_singleton, Nat.add_zero, Nat.add_assoc]
    cases Scanner.isSpecialQuoted c <;> rfl

/-- A quote or a backslash is part of an element only if it is escaped. -/
theorem specials_step (h : σ.OnlyBlanks) (c : Char) :
    specials (σ.step c).elements =
      specials σ.elements + (σ.escaped && Scanner.isSpecialQuoted c).toNat := by
  have htake := specials_take h c
  by_cases hescaped : σ.escaped = true
  · have hstep : σ.step c = σ.take c := by simp [step, hescaped]
    rw [hstep, htake, hescaped, Bool.true_and]
  · rw [Bool.not_eq_true] at hescaped
    rw [hescaped, Bool.false_and, Bool.toNat_false, Nat.add_zero]
    unfold step
    rw [hescaped, if_neg Bool.false_ne_true]
    by_cases hquote : c = '"'
    · subst hquote
      rfl
    by_cases hbackslash : c = '\\'
    · subst hbackslash
      rfl
    have hplain : Scanner.isSpecialQuoted c = false := by
      simp [Scanner.isSpecialQuoted, hquote, hbackslash]
    rw [hplain] at htake
    split
    · rfl
    split
    · rfl
    split
    · rfl
    split
    · rfl
    split
    · have hempty : specials [""] = 0 := rfl
      simp only [elements, specials_append, hempty, Nat.add_zero]
    · exact htake

/-- Blanks add neither quotes nor backslashes. -/
theorem specials_foldl_blanks (h : σ.OnlyBlanks) {cs : List Char}
    (hcs : ∀ c ∈ cs, isBlank c = true) :
    specials (cs.foldl step σ).elements = specials σ.elements := by
  induction cs generalizing σ with
  | nil => rfl
  | cons c cs ih =>
      obtain ⟨hc, hcs⟩ := List.forall_mem_cons.mp hcs
      rw [List.foldl_cons, ih (h.step c) hcs, specials_step h, isSpecialQuoted_of_blank hc,
        Bool.and_false, Bool.toNat_false, Nat.add_zero]

/-- One reading has got so many quotes and backslashes more than another, and has got to the same
place if there are none. -/
structure Exceeds (τ σ : Scan) (n : Nat) : Prop where
  same : n = 0 → τ = σ
  specials : ListValue.specials τ.elements = ListValue.specials σ.elements + n
  blanks_left : τ.OnlyBlanks
  blanks_right : σ.OnlyBlanks

theorem Exceeds.elements_eq_iff {n : Nat} (h : τ.Exceeds σ n) : τ.elements = σ.elements ↔ n = 0 := by
  constructor
  · intro heq
    have hcount := h.specials
    rw [heq] at hcount
    omega
  · intro hn
    rw [h.same hn]

/-- A character that is escaped for both readings or for neither makes no difference. -/
theorem Exceeds.step {n : Nat} (h : τ.Exceeds σ n) (hescaped : τ.escaped = σ.escaped) (c : Char) :
    (τ.step c).Exceeds (σ.step c) n where
  same := fun hn => by rw [h.same hn]
  specials := by
    rw [specials_step h.blanks_left, specials_step h.blanks_right, h.specials, hescaped]
    omega
  blanks_left := h.blanks_left.step c
  blanks_right := h.blanks_right.step c

/-! ### Escapes that are lost -/

/-- A backslash waits for its character: since one was escaped there have been nothing but
blanks, outside quotes. -/
def holdsEscape (σ : Scan) (held : Bool) (c : Char) : Bool :=
  isBlank c && !σ.inString && (held || σ.escaped)

/-- A backslash escapes what it was not meant to escape: the quote behind the blank that it was
meant for, or the backslash that a quoted bracket gets. -/
def losesEscape (σ : Scan) (held : Bool) (c : Char) : Bool :=
  (held && c == '"') || (σ.escaped && σ.inString && Scanner.isBracket c)

/-- How many escapes of a list are lost, from a point of its text on. -/
def lostEscapes (σ : Scan) (held : Bool) : List Char → Nat
  | [] => 0
  | c :: cs =>
    (σ.losesEscape held c).toNat + (σ.step c).lostEscapes (σ.holdsEscape held c) cs

end Scan

theorem onlyBlanks_scan (value : String) : (scan value).OnlyBlanks :=
  (Scan.onlyBlanks_of_empty rfl).foldl_step value.toList

end ListValue

namespace Scanner

variable {s t : Scanner} {σ : Scan} {held : Bool} {n : Nat} {c : Char}

/-! ### In the list -/

/-- The machine is in a list, `σ` is where the reading of the text stands, and `n` escapes have
been lost. -/
structure Tracks (s : Scanner) (σ : Scan) (held : Bool) (n : Nat) : Prop where
  inList : s.inList = true
  inComment : s.inComment = false
  inString : s.inString = σ.inString
  escaped : s.escaped = σ.escaped
  /-- What is escaped is right behind its backslash. -/
  behind : s.escaped = true → s.blanks = ""
  outside : held = true → s.inString = false ∧ s.escaped = false
  /-- If a backslash waits for its character, the value ends in it. -/
  ending : (scan s.value).escaped = (s.escaped || held)
  waiting_escaped : s.waiting.escaped = σ.escaped
  waiting : s.waiting.Exceeds σ n
  /-- If none waits, blanks do not count. -/
  value : n = 0 → held = false → scan s.value = σ

theorem specials_waiting (h : ∀ d ∈ s.blanks.toList, isBlank d = true) :
    specials s.waiting.elements = specials (scan s.value).elements := by
  rw [Scanner.waiting, scan_append]
  exact Scan.specials_foldl_blanks (onlyBlanks_scan _) h

/-- Where nothing waits, the value is all there is. -/
theorem Tracks.of_value (hlist : t.inList = true) (hcomment : t.inComment = false)
    (hstring : t.inString = σ.inString) (hescaped : t.escaped = σ.escaped) (hblanks : t.blanks = "")
    (hending : (scan t.value).escaped = σ.escaped) (hvalue : (scan t.value).Exceeds σ n) :
    t.Tracks σ false n := by
  have hwaiting : t.waiting = scan t.value := by rw [Scanner.waiting, hblanks, String.append_empty]
  exact {
    inList := hlist
    inComment := hcomment
    inString := hstring
    escaped := hescaped
    behind := fun _ => hblanks
    outside := fun hheld => absurd hheld Bool.false_ne_true
    ending := by rw [hending, hescaped, Bool.or_false]
    waiting_escaped := by rw [hwaiting, hending]
    waiting := by rwa [hwaiting]
    value := fun hn _ => hvalue.same hn }

namespace Tracks

/-- A character joins the value. -/
theorem push (h : s.Tracks σ held n) (hholds : σ.holdsEscape held c = false)
    (hloses : σ.losesEscape held c = false) (inString escaped : Bool)
    (hstring : inString = (σ.step c).inString) (hescaped : escaped = (σ.step c).escaped) :
    ({ s.push c with inString := inString, escaped := escaped } : Scanner).Tracks (σ.step c)
      (σ.holdsEscape held c) (n + (σ.losesEscape held c).toNat) := by
  rw [hholds, hloses]
  refine of_value h.inList h.inComment hstring hescaped rfl ?_ ?_
  · rw [scan_value_push, Scan.step_escaped, h.waiting_escaped, Scan.step_escaped]
  · rw [scan_value_push]
    exact h.waiting.step h.waiting_escaped c

/-- A quoted bracket joins the value behind a backslash.  If it is escaped, its own backslash
escapes that one. -/
theorem push_bracket (h : s.Tracks σ held n) (hstring : s.inString = true)
    (hbracket : isBracket c = true) :
    ({ (s.push '\\').push c with escaped := false } : Scanner).Tracks (σ.step c)
      (σ.holdsEscape held c) (n + (σ.losesEscape held c).toNat) := by
  have hquoted : σ.inString = true := h.inString.symm.trans hstring
  have hc : c ≠ '"' ∧ c ≠ '\\' := by
    constructor <;> rintro rfl <;> exact absurd hbracket (by decide)
  have hholds : σ.holdsEscape held c = false := by simp [Scan.holdsEscape, hquoted]
  have hloses : σ.losesEscape held c = σ.escaped := by
    simp [Scan.losesEscape, hquoted, hbracket, hc.1]
  have hspecial : isSpecialQuoted c = false := by simp [isSpecialQuoted, hc]
  have hplain : (σ.step c).escaped = false := by simp [Scan.step_escaped, hc.2]
  have hvalue : scan ((s.push '\\').push c).value = (s.waiting.step '\\').step c := by
    rw [scan_value_push, waiting_push]
  rw [hholds, hloses]
  refine of_value h.inList h.inComment ?_ ?_ rfl ?_ ?_
  · rw [Scan.step_inString, beq_eq_false_iff_ne.mpr hc.1]
    simp [Scanner.push, h.inString]
  · exact hplain.symm
  · rw [hvalue, hplain, Scan.step_escaped, beq_eq_false_iff_ne.mpr hc.2, Bool.false_and]
  · rw [hvalue]
    refine ⟨fun hn => ?_, ?_, (h.waiting.blanks_left.step _).step c, h.waiting.blanks_right.step c⟩
    · -- nothing has been lost, so the bracket is not escaped
      obtain ⟨hn, hescaped⟩ := Nat.add_eq_zero_iff.mp hn
      have hescaped : σ.escaped = false := by simpa using hescaped
      rw [h.waiting.same hn, Scan.step_backslash hescaped, Scan.step_after_backslash,
        Scan.step_plain hescaped hc.1 hc.2 (Or.inl hquoted)]
    · rw [Scan.specials_step (h.waiting.blanks_left.step _), hspecial, Bool.and_false,
        Scan.specials_step h.waiting.blanks_left, Scan.specials_step h.waiting.blanks_right,
        hspecial, Bool.and_false, h.waiting_escaped, h.waiting.specials,
        show isSpecialQuoted '\\' = true from rfl, Bool.and_true, Bool.toNat_false,
        Nat.add_zero, Nat.add_zero, Nat.add_assoc]

/-- A blank outside quotes waits, and with it the backslash that escapes it. -/
theorem pushBlank (h : s.Tracks σ held n) (hstring : s.inString = false)
    (hc : isBlank c = true) :
    ({ s with blanks := s.blanks.push c, escaped := false } : Scanner).Tracks (σ.step c)
      (σ.holdsEscape held c) (n + (σ.losesEscape held c).toNat) := by
  have hquoted : σ.inString = false := h.inString.symm.trans hstring
  have hc' : c ≠ '"' ∧ c ≠ '\\' := by
    constructor <;> rintro rfl <;> exact absurd hc (by decide)
  have hholds : σ.holdsEscape held c = (held || σ.escaped) := by simp [Scan.holdsEscape, hquoted, hc]
  have hloses : σ.losesEscape held c = false := by simp [Scan.losesEscape, hquoted, hc'.1]
  have hwaiting : ({ s with blanks := s.blanks.push c, escaped := false } : Scanner).waiting =
      s.waiting.step c := by
    rw [Scanner.waiting, Scanner.waiting, scan_append, scan_append, String.toList_push,
      List.foldl_append]
    rfl
  rw [hholds, hloses]
  exact {
    inList := h.inList
    inComment := h.inComment
    inString := by
      rw [Scan.step_inString, beq_eq_false_iff_ne.mpr hc'.1, Bool.false_and, Bool.xor_false]
      exact h.inString
    escaped := by simp [Scan.step_escaped, hc'.2]
    behind := fun hescaped => absurd hescaped Bool.false_ne_true
    outside := fun _ => ⟨hstring, rfl⟩
    ending := by rw [h.ending, h.escaped, Bool.false_or, Bool.or_comm]
    waiting_escaped := by
      rw [hwaiting, Scan.step_escaped, h.waiting_escaped, Scan.step_escaped]
    waiting := hwaiting ▸ h.waiting.step h.waiting_escaped c
    value := fun hn hnone => by
      rw [Bool.or_eq_false_iff] at hnone
      exact (h.value hn hnone.1).trans (Scan.step_blank hnone.2 hquoted hc).symm }

/-- A character that stands for itself. -/
theorem plain (h : s.Tracks σ held n) (hvalue : s.value ≠ "") (hcontrol : isControl c = false)
    (hc : s.escaped = true ∨ c ≠ '"' ∧ c ≠ '\\') :
    (s.plain c).Tracks (σ.step c) (σ.holdsEscape held c) (n + (σ.losesEscape held c).toNat) := by
  have hescaped := h.escaped
  have hstring := h.inString
  unfold Scanner.plain
  rw [if_neg (by simp [hcontrol])]
  split
  · rename_i hkept
    split
    · rename_i hbracket
      rw [Bool.and_eq_true] at hbracket
      exact h.push_bracket hbracket.1 hbracket.2
    · rename_i hbracket
      have houtside := h.outside
      refine h.push ?_ ?_ _ _ ?_ ?_
      · unfold Scan.holdsEscape
        grind
      · unfold Scan.losesEscape isBracket
        grind
      · rw [Scan.step_inString]
        grind [Scanner.push]
      · rw [Scan.step_escaped]
        grind
  · rename_i hblank
    rw [if_pos (by simpa using hvalue)]
    exact h.pushBlank (by grind) (by grind)

/-- A backslash escapes for both. -/
theorem backslash (h : s.Tracks σ held n) (hescaped : s.escaped = false) :
    (({ s with escaped := true } : Scanner).push '\\').Tracks (σ.step '\\')
      (σ.holdsEscape held '\\') (n + (σ.losesEscape held '\\').toNat) := by
  have hsame := h.escaped
  refine h.push rfl ?_ s.inString true ?_ ?_
  · simp [Scan.losesEscape, isBracket]
  · rw [Scan.step_inString]
    simp [h.inString]
  · rw [Scan.step_escaped, ← hsame, hescaped]
    rfl

/-- A quote opens or closes for both, unless it comes behind a backslash that waits. -/
theorem toggleQuote (h : s.Tracks σ held n) (hcoherent : s.Coherent)
    (hescaped : s.escaped = false) :
    s.toggleQuote.Tracks (σ.step '"') (σ.holdsEscape held '"')
      (n + (σ.losesEscape held '"').toNat) := by
  have hnone : σ.escaped = false := h.escaped.symm.trans hescaped
  have hholds : σ.holdsEscape held '"' = false := rfl
  have hloses : σ.losesEscape held '"' = held := by simp [Scan.losesEscape, hnone]
  have hending : (scan s.value).escaped = held := by rw [h.ending, hescaped, Bool.false_or]
  have hvalue : scan (({ s with blanks := "", inString := !s.inString } : Scanner).push '"').value =
      (scan s.value).step '"' := by
    rw [scan_value_push, Scanner.waiting, String.append_empty]
  rw [toggleQuote_eq hcoherent.blanks_of_inString, if_pos h.inList, hholds, hloses]
  refine of_value h.inList h.inComment ?_ ?_ rfl ?_ ?_
  · rw [Scan.step_inString, hnone]
    simp [Scanner.push, h.inString]
  · rw [Scan.step_escaped]
    exact hescaped
  · rw [hvalue, Scan.step_escaped, Scan.step_escaped]
    rfl
  · have hcount : specials (scan s.value).elements = specials σ.elements + n :=
      (specials_waiting hcoherent.isBlank_blanks).symm.trans h.waiting.specials
    rw [hvalue]
    refine ⟨fun hn => ?_, ?_, (onlyBlanks_scan _).step _, h.waiting.blanks_right.step _⟩
    · -- nothing has been lost, so no backslash waits
      obtain ⟨hn, hheld⟩ := Nat.add_eq_zero_iff.mp hn
      rw [h.value hn (by simpa using hheld)]
    · rw [Scan.specials_step (onlyBlanks_scan _), hcount, hending,
        Scan.specials_step h.waiting.blanks_right, hnone, Bool.false_and,
        show isSpecialQuoted '"' = true from rfl, Bool.and_true]
      exact Nat.add_assoc _ _ _

/-- **A character of the list keeps the two together**, and loses at most one escape. -/
theorem step (h : s.Tracks σ held n) (hcoherent : s.Coherent) (hcontrol : isControl c = false)
    (hclean : (s.step c).error = none) (hlist : (s.step c).onward.inList = true)
    (hbare : (s.step c).onward.inComment = false) :
    ∃ next, s.step c = .taken next none ∧
      next.Tracks (σ.step c) (σ.holdsEscape held c) (n + (σ.losesEscape held c).toNat) := by
  have hvalue : s.inValue = true := hcoherent.idle.inValue_of_inList h.inList
  have hheld : s.value ≠ "" := by
    intro hempty
    have hopened := hcoherent.list h.inList
    rw [hempty] at hopened
    exact absurd hopened (by decide)
  have hstep : s.step c = s.stepValue c := by
    have hhash : ¬(c == '#' && !s.escaped && !s.inString) = true := by
      intro hhash
      have hopened : s.step c = .taken { s with inComment := true } none := by
        simp [Scanner.step, h.inComment, hhash]
      rw [hopened] at hbare
      exact absurd hbare (by simp [Step.onward])
    simp [Scanner.step, stepPlace, h.inComment, hhash, hvalue]
  have hcases := stepValue_listStep (c := c) h.inList
  rw [hstep] at hclean hlist ⊢
  generalize s.stepValue c = step at hcases hclean hlist ⊢
  cases hcases with
  | escaped hescaped => exact ⟨_, rfl, h.plain hheld hcontrol (Or.inl hescaped)⟩
  | backslash hescaped => exact ⟨_, rfl, h.backslash hescaped⟩
  | quote hescaped => exact ⟨_, rfl, h.toggleQuote hcoherent hescaped⟩
  | opening => exact absurd hclean (by simp [Step.error])
  | closing => exact absurd hlist (by simp [Step.onward, plain_inList])
  | plain hescaped hbackslash hquote =>
      exact ⟨_, rfl, h.plain hheld hcontrol (Or.inr ⟨hquote, hbackslash⟩)⟩

end Tracks

/-- The value of a list is complete: nothing is open, and nothing waits. -/
structure Complete (t : Scanner) : Prop where
  list : isList t.value = true
  inComment : t.inComment = false
  inString : t.inString = false
  inList : t.inList = false
  escaped : t.escaped = false
  blanks : t.blanks = ""

/-- The bracket that closes the list completes the value. -/
theorem Tracks.close (h : s.Tracks σ held n) (hcoherent : s.Coherent) (hc : c = ']')
    (hclosed : (s.step c).onward.inList = false) :
    ∃ t, s.step c = .taken t none ∧ t.Complete ∧
      (scan t.value).Exceeds (σ.step c) (n + σ.lostEscapes held [c]) := by
  have hvalue : s.inValue = true := hcoherent.idle.inValue_of_inList h.inList
  have hstep : s.step c = s.stepValue c := by
    simp [Scanner.step, stepPlace, h.inComment, hc, hvalue]
  have hopen : (s.plain c).inList ≠ false := by simp [plain_inList, h.inList]
  have hcases := stepValue_listStep (c := c) h.inList
  rw [hstep] at hclosed ⊢
  generalize s.stepValue c = step at hcases hclosed ⊢
  cases hcases with
  | escaped => exact absurd hclosed hopen
  | backslash => exact absurd hc (by decide)
  | quote => exact absurd hc (by decide)
  | opening => exact absurd hc (by decide)
  | closing hescaped hstring =>
      have hplain : ({ s with inList := false } : Scanner).plain ']' =
          { s.push ']' with inList := false, escaped := false } := by
        simp [Scanner.plain, hstring, isControl, isBlank, Scanner.push]
      have hnone : σ.lostEscapes held [']'] = 0 := by
        simp [Scan.lostEscapes, Scan.losesEscape, ← h.inString, hstring]
      rw [hplain, hnone]
      refine ⟨_, rfl, ⟨?_, h.inComment, hstring, rfl, rfl, rfl⟩, ?_⟩
      · exact hcoherent.isList_push (hcoherent.list h.inList) ']'
      · rw [show scan _ = _ from scan_value_push (s := s)]
        exact h.waiting.step h.waiting_escaped ']'
  | plain => exact absurd hclosed hopen

theorem problemsOf_advance (s : Scanner) (c : Char) :
    problemsOf (s.advance c).2 = ((s.step c).error.map (⟨s.line, ·⟩)).toList := by
  rw [seen_advance]
  cases (s.step c).error <;> simp

/-- **The rest of a list loses as many escapes as are counted in its text**, and shows
nothing. -/
theorem Tracks.run {cs : List Char} (h : s.Tracks σ held n) (hcoherent : s.Coherent)
    (hcontrol : ∀ c ∈ cs, isControl c = false)
    (hclean : problemsOf (s.run (cs ++ [']'])).2 = [])
    (hinside : ∀ m ≤ cs.length,
      (s.run (cs.take m)).1.inList = true ∧ (s.run (cs.take m)).1.inComment = false)
    (hclosed : (s.run (cs ++ [']'])).1.inList = false) :
    ∃ t, s.run (cs ++ [']']) = (t, []) ∧ t.Complete ∧
      (scan t.value).Exceeds ((cs ++ [']']).foldl Scan.step σ)
        (n + σ.lostEscapes held (cs ++ [']'])) := by
  induction cs generalizing s σ held n with
  | nil =>
      rw [List.nil_append, run_singleton, advance_eq_onward, countLine_of_ne (by decide)] at hclosed
      obtain ⟨t, hstep, hcomplete, hexceeds⟩ := h.close hcoherent rfl hclosed
      exact ⟨t, run_of_taken hstep (by decide), hcomplete, hexceeds⟩
  | cons c cs ih =>
      obtain ⟨hc, hcs⟩ := List.forall_mem_cons.mp hcontrol
      have hnewline : c ≠ '\n' := by
        rintro rfl
        exact absurd hc (by decide)
      rw [List.cons_append, Scanner.run, problemsOf_append, List.append_eq_nil_iff,
        problemsOf_advance] at hclean
      obtain ⟨hfirst, hmore⟩ := hclean
      have hnext := hinside 1 (by simp)
      rw [List.take_succ_cons, List.take_zero, run_singleton, advance_eq_onward,
        countLine_of_ne hnewline] at hnext
      obtain ⟨next, hstep, htracks⟩ :=
        h.step hcoherent hc (by simpa using hfirst) hnext.1 hnext.2
      have hadvance : s.advance c = (next, []) := by
        rw [advance_of_taken hstep, countLine_of_ne hnewline]
        rfl
      have hkept : next.Coherent := by
        have hleads := hcoherent.step c
        rw [hstep] at hleads
        exact hleads
      rw [hadvance] at hmore
      rw [List.cons_append, Scanner.run, hadvance] at hclosed
      obtain ⟨t, hrun, hcomplete, hexceeds⟩ := ih htracks hkept hcs hmore
        (fun m hm => by
          have hlater := hinside (m + 1) (by simpa using hm)
          rwa [List.take_succ_cons, Scanner.run, hadvance] at hlater) hclosed
      refine ⟨t, run_cons hadvance hrun, hcomplete, ?_⟩
      rw [List.cons_append, List.foldl_cons, Scan.lostEscapes, ← Nat.add_assoc]
      exact hexceeds

/-! ### Lines -/

variable {line : Nat} {key : String}

/-- A machine with a complete value stands where one stands that has read a plain value. -/
theorem Complete.eq_inPlainAfter (h : t.Complete) (hsame : (inPlain line key "").SameValue t)
    (hline : t.line = line) : t = inPlainAfter line key t.value "" := by
  have hvalue : t.inValue = true := hsame.inValue
  have hkey : t.key = key := hsame.key
  have hkeyLine : t.keyLine = line := hsame.keyLine
  obtain ⟨-, hcomment, hstring, hlist, hescaped, hblanks⟩ := h
  cases t
  simp_all [inPlainAfter, inPlain]

variable {m : Nat}

/-- In the list of a line, behind its opening bracket. -/
def inBrackets (m : Nat) (key : String) : Scanner :=
  { inPlain (m + 1) key "[" with inList := true }

theorem run_inBrackets (hkey : ∀ c ∈ key.toList, isKeyChar c = true) (cs : List Char) :
    ({} : Scanner).run (valueStart m key ++ '[' :: cs) = (inBrackets m key).run cs := by
  have hopen : (inPlain (m + 1) key "").run ['['] = (inBrackets m key, []) := rfl
  exact run_append (run_valueStart hkey m) (run_append hopen rfl)

theorem tracks_inBrackets (m : Nat) (key : String) :
    (inBrackets m key).Tracks (({} : Scan).step '[') false 0 := by
  have hvalue : scan (inBrackets m key).value = ({} : Scan).step '[' := by
    show scan "[" = _
    decide
  have hblanks : (({} : Scan).step '[').OnlyBlanks := Scan.onlyBlanks_of_empty rfl
  refine .of_value rfl rfl rfl rfl rfl (congrArg Scan.escaped hvalue) ?_
  rw [hvalue]
  exact ⟨fun _ => rfl, rfl, hblanks, hblanks⟩

end Scanner

/-- Behind `before`, the reader takes the text for a list from its first character to its last,
and finds nothing wrong with it.  The text has no control characters and no comment. -/
structure ReadsAsList (before text : List Char) : Prop where
  printable : ∀ c ∈ text, isControl c = false
  first : text.head? = some '['
  last : text.getLast? = some ']'
  clean : (readSettings .listen (before ++ text)).problems = []
  bare : ∀ m ≤ text.length,
    (({ policy := .listen } : Lexer).feedAll (before ++ text.take m)).1.scanner.inComment = false
  inside : ∀ m < text.length, 0 < m →
    (({ policy := .listen } : Lexer).feedAll (before ++ text.take m)).1.scanner.inList = true

instance (before text : List Char) : Decidable (ReadsAsList before text) :=
  decidable_of_iff
    ((text.all fun c => !isControl c) = true ∧ text.head? = some '[' ∧ text.getLast? = some ']' ∧
      (readSettings .listen (before ++ text)).problems = [] ∧
      (∀ m < text.length + 1, (({ policy := .listen } : Lexer).feedAll
        (before ++ text.take m)).1.scanner.inComment = false) ∧
      ∀ m < text.length, 0 < m → (({ policy := .listen } : Lexer).feedAll
        (before ++ text.take m)).1.scanner.inList = true)
    ⟨fun ⟨hprintable, hfirst, hlast, hclean, hbare, hinside⟩ =>
        ⟨fun c hc => by simpa using List.all_eq_true.mp hprintable c hc, hfirst, hlast, hclean,
          fun m hm => hbare m (Nat.lt_succ_of_le hm), hinside⟩,
      fun h => ⟨List.all_eq_true.mpr fun c hc => by simpa using h.printable c hc, h.first, h.last,
        h.clean, fun m hm => h.bare m (Nat.le_of_lt_succ hm), h.inside⟩⟩

namespace ReadsAsList

open Scanner

variable {before text cs : List Char} {m : Nat} {key : String}

/-- Such a text has its brackets and what is between them. -/
theorem exists_between (h : ReadsAsList before text) : ∃ cs, text = '[' :: (cs ++ [']']) := by
  obtain ⟨rest, rfl⟩ := List.head?_eq_some_iff.mp h.first
  rcases List.eq_nil_or_concat rest with rfl | ⟨cs, c, rfl⟩
  · exact absurd h.last (by decide)
  · have hlast := h.last
    rw [List.concat_eq_append, ← List.cons_append, List.getLast?_concat] at hlast
    obtain rfl : c = ']' := Option.some_inj.mp hlast
    exact ⟨cs, by rw [List.concat_eq_append]⟩

/-- The reader that is fed such a text is the machine that stands behind the opening bracket. -/
theorem feedAll_take (hkey : ∀ c ∈ key.toList, isKeyChar c = true) (k : Nat) :
    (({ policy := .listen } : Lexer).feedAll
      (valueStart m key ++ ('[' :: cs).take (k + 1))).1.scanner =
        ((inBrackets m key).run (cs.take k)).1 := by
  rw [Lexer.feedAll_never (fun _ => rfl) rfl, List.take_succ_cons, run_inBrackets hkey]

/-- **The machine reads such a text to its end, and loses the escapes that are counted.** -/
theorem run (hkey : ∀ c ∈ key.toList, isKeyChar c = true)
    (h : ReadsAsList (valueStart m key) ('[' :: (cs ++ [']']))) :
    ∃ t, (inBrackets m key).run (cs ++ [']']) = (t, []) ∧ t.Complete ∧
      (scan t.value).Exceeds (scan (String.ofList ('[' :: (cs ++ [']']))))
        (({} : Scan).lostEscapes false ('[' :: (cs ++ [']']))) := by
  have hcoherent : (inBrackets m key).Coherent := by
    have hrun := coherent_start.run (valueStart m key ++ ['['])
    rwa [run_inBrackets hkey] at hrun
  have hcontrol : ∀ c ∈ cs, isControl c = false := fun c hc => h.printable c (by simp [hc])
  have hseen : ({} : Scanner).seen (valueStart m key ++ '[' :: (cs ++ [']'])) =
      (inBrackets m key).seen (cs ++ [']']) := by
    rw [seen, run_inBrackets hkey, seen]
  have hproblems : problemsOf ((inBrackets m key).seen (cs ++ [']'])) = [] := by
    have hclean := h.clean
    rwa [readSettings_never (fun _ => rfl), hseen] at hclean
  rw [seen, problemsOf_append, problemsOf_append, problemsOf_problems, problemsOf_entries,
    List.append_nil, List.append_eq_nil_iff] at hproblems
  obtain ⟨hclean, hend⟩ := hproblems
  have hclosed : ((inBrackets m key).run (cs ++ [']'])).1.inList = false := by
    by_contra hopen
    simp [endProblems, endErrors, hopen] at hend
  have hinside : ∀ k ≤ cs.length, ((inBrackets m key).run (cs.take k)).1.inList = true ∧
      ((inBrackets m key).run (cs.take k)).1.inComment = false := by
    intro k hk
    have hlist := h.inside (k + 1) (by simp; omega) (Nat.succ_pos k)
    have hbare := h.bare (k + 1) (by simp; omega)
    rw [feedAll_take hkey, List.take_append_of_le_length hk] at hlist hbare
    exact ⟨hlist, hbare⟩
  obtain ⟨t, hrun, hcomplete, hexceeds⟩ :=
    (tracks_inBrackets m key).run hcoherent hcontrol hclean hinside hclosed
  refine ⟨t, hrun, hcomplete, ?_⟩
  rw [Nat.zero_add] at hexceeds
  have htext : scan (String.ofList ('[' :: (cs ++ [']']))) =
      (cs ++ [']']).foldl Scan.step (({} : Scan).step '[') := by
    rw [scan, String.toList_ofList, List.foldl_cons]
  have hcount : ({} : Scan).lostEscapes false ('[' :: (cs ++ [']'])) =
      (({} : Scan).step '[').lostEscapes false (cs ++ [']']) :=
    Nat.zero_add _
  rw [htext, hcount]
  exact hexceeds

end ReadsAsList

open Scanner in
/-- **A list is handed over as it was meant, unless an escape is lost in it.**  The line of a text
that is read as a list gives one entry and no problem, and the value of that entry is taken apart
into the elements of the text itself if and only if the text loses no escape. -/
theorem readSettings_listText {key : String} (hkey : ∀ c ∈ key.toList, isKeyChar c = true)
    {m : Nat} {text : List Char} (htext : ReadsAsList (valueStart m key) text)
    {lineEnd : List Char} (hend : lineEnd = [] ∨ lineEnd = ['\n']) (policy : Policy) :
    ∃ value, readSettings policy (valueStart m key ++ text ++ lineEnd) =
        ⟨[.entry ⟨key, some value, m + 1⟩], true⟩ ∧
      ((ListValue.expand value).elements = (ListValue.expand (String.ofList text)).elements ↔
        ({} : ListValue.Scan).lostEscapes false text = 0) := by
  obtain ⟨cs, rfl⟩ := htext.exists_between
  obtain ⟨t, hrun, hcomplete, hexceeds⟩ := htext.run hkey
  have hlines : '\n' ∉ cs ++ [']'] := fun hmem =>
    absurd (htext.printable '\n' (List.mem_cons_of_mem _ hmem)) (by decide)
  have hsame : (inPlain (m + 1) key "").SameValue t := by
    have hkept := run_sameValue (s := inBrackets m key) rfl hlines
    rw [hrun] at hkept
    exact ⟨hkept.inValue, hkept.key, hkept.keyLine⟩
  have hline : t.line = m + 1 := by
    have hcount := run_line (inBrackets m key) (cs ++ [']'])
    rw [hrun, List.count_eq_zero.mpr hlines] at hcount
    exact hcount
  have hwritten : (inPlain (m + 1) key "").run ('[' :: (cs ++ [']'])) =
      (inPlainAfter (m + 1) key t.value "", []) := by
    have hopen : (inPlain (m + 1) key "").run ['['] = (inBrackets m key, []) := rfl
    rw [← hcomplete.eq_inPlainAfter hsame hline]
    exact run_append hopen hrun
  have hlist : isList (String.ofList ('[' :: (cs ++ [']']))) = true := by
    simp [isList, ListValue.opensList]
  refine ⟨t.value, readSettings_valueLine hkey hwritten hend policy, ?_⟩
  rw [expand_elements hcomplete.list, expand_elements hlist, hexceeds.elements_eq_iff]

/-- Escaped separators, a bracket and a quote between quotes, and blanks before quotes. -/
theorem readSettings_listText_kept :
    let text := "[a\\, b,  \"c ] \\\" d\" , \"\\\\\", e\\ f]".toList
    (∀ c ∈ "font".toList, Scanner.isKeyChar c = true) ∧
      ReadsAsList (Scanner.valueStart 1 "font") text ∧
      ∃ value, readSettings .listen (Scanner.valueStart 1 "font" ++ text ++ ['\n']) =
          ⟨[.entry ⟨"font", some value, 2⟩], true⟩ ∧
        (ListValue.expand value).elements = ["a,b", "c ] \" d", "\\", "ef"] := by
  intro text
  have hkey : ∀ c ∈ "font".toList, Scanner.isKeyChar c = true := List.all_eq_true.mp (by decide)
  have htext : ReadsAsList (Scanner.valueStart 1 "font") text := by decide +kernel
  obtain ⟨value, hread, helements⟩ := readSettings_listText hkey htext (Or.inr rfl) .listen
  exact ⟨hkey, htext, value, hread, (helements.mpr (by decide +kernel)).trans (by decide +kernel)⟩

/-- An escaped blank before a quote makes the quote part of the element, and an escaped bracket
between quotes comes with a backslash. -/
theorem readSettings_listText_lost :
    let blank := "[a\\ \"b\", c]"
    let bracket := "[\"\\[\", b]"
    let elementsOf := fun text : String =>
      (readSettings .listen (Scanner.valueStart 0 "k" ++ text.toList ++ ['\n'])).entries.map
        fun e => (ListValue.expandEntry e.value).elements
    ReadsAsList (Scanner.valueStart 0 "k") blank.toList ∧
      ReadsAsList (Scanner.valueStart 0 "k") bracket.toList ∧
      elementsOf blank = [["a\"b, c]"]] ∧ (ListValue.expand blank).elements = ["ab", "c"] ∧
      elementsOf bracket = [["\\[", "b"]] ∧ (ListValue.expand bracket).elements = ["[", "b"] := by
  decide +kernel

end TerminalConfig
