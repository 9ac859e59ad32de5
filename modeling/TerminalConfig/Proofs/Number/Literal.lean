/-
Numerals in basic characters.

`Literal` says what a numeral is without the classes that the reader asks: its digits are the ten
basic ones, and its letters are those of the basic alphabet in either case.  In a text of basic
characters only, the further digits and letters that the reader knows cannot occur, so there it
finds the longest `Literal`.
-/
import TerminalConfig.Proofs.Number.Longest

namespace TerminalConfig

open Text

namespace Numeral

/-! ### The grammar -/

/-- An exponent in basic characters, or none. -/
inductive BasicExponent (small capital : Char) : List Char → Prop
  | none : BasicExponent small capital []
  | some {c : Char} {s ds : List Char} (hmark : c = small ∨ c = capital) (hs : IsSign s)
      (hds : ∀ d ∈ ds, d.isDigit = true) (hne : ds ≠ []) :
      BasicExponent small capital (c :: (s ++ ds))

/-- A numeral in basic characters, with a sign or without. -/
inductive Literal : NumeralForm → List Char → Prop
  | hexadecimal {s digits e : List Char} {x : Char} (hs : IsSign s) (hx : x = 'x' ∨ x = 'X')
      (hdigits : Digits isHexDigit digits) (he : BasicExponent 'p' 'P' e) :
      Literal .hexadecimal (s ++ '0' :: x :: (digits ++ e))
  | decimal {s digits e : List Char} (hs : IsSign s) (hdigits : Digits Char.isDigit digits)
      (he : BasicExponent 'e' 'E' e) : Literal .decimal (s ++ (digits ++ e))
  | word {s text : List Char} (hs : IsSign s)
      (hname : String.ofList (text.map Char.toLower) ∈ names) : Literal .word (s ++ text)

/-! ### Classes of characters -/

theorem Digits.imp {p q : Char → Bool} {digits : List Char}
    (h : ∀ c ∈ digits, p c = true → q c = true) (hdigits : Digits p digits) : Digits q digits := by
  cases hdigits with
  | whole hds hne => exact .whole (fun d hd => h d hd (hds d hd)) hne
  | @pointed whole part hwhole hpart hne =>
      exact .pointed (fun d hd => h d (by simp [hd]) (hwhole d hd))
        (fun d hd => h d (by simp [hd]) (hpart d hd)) hne

variable {small capital : Char} {e text : List Char}

theorem BasicExponent.exponent (hmark : ∀ c, c = small ∨ c = capital → isLetter small c = true)
    (h : BasicExponent small capital e) : Exponent small e := by
  cases h with
  | none => exact .none
  | @some c s ds hc hs hds hne =>
      exact .some (hmark c hc) hs (fun d hd => isDecimalDigit_of_isDigit (hds d hd)) hne

theorem Exponent.basic (hmark : ∀ c, isLetter small c = true → c = small ∨ c = capital)
    (hbasic : ∀ c ∈ e, c.toNat < 0x80) (h : Exponent small e) : BasicExponent small capital e := by
  cases h with
  | none => exact .none
  | @some c s ds hc hs hds hne =>
      refine .some (hmark c hc) hs (fun d hd => ?_) hne
      exact isDigit_of_isDecimalDigit (hbasic d (by simp [hd])) (hds d hd)

/-- A name counts as itself in either case. -/
theorem forall₂_map_toLower (text : List Char) :
    List.Forall₂ (fun letter c => isLetter letter c = true) (text.map Char.toLower) text := by
  rw [List.forall₂_map_left_iff, List.forall₂_same]
  intro c _
  simp [isLetter]

/-! ### The grammar and the reader -/

theorem Literal.spelled {form : NumeralForm} (h : Literal form text) : Spelled form text := by
  cases h with
  | @hexadecimal s digits e x hs hx hdigits he =>
      have hletter : isLetter 'x' x = true := by
        rcases hx with rfl | rfl <;> decide
      refine ⟨_, _, rfl, hs, .hexadecimal hletter hdigits (he.exponent ?_)⟩
      rintro c (rfl | rfl) <;> decide
  | decimal hs hdigits he =>
      refine ⟨_, _, rfl, hs, .decimal (hdigits.imp fun _ _ => isDecimalDigit_of_isDigit)
        (he.exponent ?_)⟩
      rintro c (rfl | rfl) <;> decide
  | @word s text hs hname =>
      refine ⟨s, text, rfl, hs, .word hname ?_⟩
      rw [String.toList_ofList]
      exact forall₂_map_toLower text

theorem Spelled.literal {form : NumeralForm} (hbasic : ∀ c ∈ text, c.toNat < 0x80)
    (h : Spelled form text) : Literal form text := by
  obtain ⟨s, unsigned, rfl, hs, hspelling⟩ := h
  obtain ⟨-, hunsigned⟩ := List.forall_mem_append.mp hbasic
  cases hspelling with
  | @hexadecimal x digits e hx hdigits he =>
      obtain ⟨-, he'⟩ := List.forall_mem_append.mp
        (List.forall_mem_cons.mp (List.forall_mem_cons.mp hunsigned).2).2
      exact .hexadecimal hs (eq_of_isLetter (by decide) hx) hdigits
        (he.basic (fun c hc => eq_of_isLetter (by decide) hc) he')
  | @decimal digits e hdigits he =>
      obtain ⟨hds, he'⟩ := List.forall_mem_append.mp hunsigned
      exact .decimal hs (hdigits.imp fun c hc => isDigit_of_isDecimalDigit (hds c hc))
        (he.basic (fun c hc => eq_of_isLetter (by decide) hc) he')
  | @word name text hname htext =>
      refine .word hs ?_
      rwa [map_toLower_of_forall₂ htext hunsigned, String.ofList_toList]

/-- In basic characters the reader knows no other numerals. -/
theorem literal_iff_spelled {cs : List Char} (hbasic : ∀ c ∈ cs, c.toNat < 0x80)
    (form : NumeralForm) (hcs : text <+: cs) : Literal form text ↔ Spelled form text :=
  ⟨Literal.spelled, Spelled.literal fun c hc => hbasic c (hcs.subset hc)⟩

theorem isLongest_literal_iff {cs : List Char} (hbasic : ∀ c ∈ cs, c.toNat < 0x80) {n : Numeral} :
    IsLongest Literal cs n ↔ IsLongest Spelled cs n := by
  constructor
  · intro h
    refine ⟨h.begins, h.spelled.spelled, fun form text hcs htext => ?_⟩
    exact h.longest form text hcs ((literal_iff_spelled hbasic form hcs).mpr htext)
  · intro h
    refine ⟨h.begins, (literal_iff_spelled hbasic n.form h.begins).mpr h.spelled,
      fun form text hcs htext => ?_⟩
    exact h.longest form text hcs htext.spelled

/-- **The numeral that a text is read by is the longest that it begins with.**  Let the text be of
basic characters.

  * What is taken of it is the longest `Literal` that it begins with, with the form of that.
  * Nothing is taken exactly if it begins with none.
  * Only then the text counts as zero without being read.
  * Otherwise the longest `Literal` is read, by the reader of hexadecimal numerals exactly if its
    form is hexadecimal, and else by the one of decimal numerals and names. -/
theorem readLeading_longest {text : String} (hbasic : ∀ c ∈ text.toList, c.toNat < 0x80) :
    (∀ n, leading? text.toList = some n ↔ IsLongest Literal text.toList n) ∧
    (leading? text.toList = none ↔ ∀ form part, part <+: text.toList → ¬Literal form part) ∧
    ((∀ form part, part <+: text.toList → ¬Literal form part) → readLeading text = .ok .zero) ∧
    ∀ n, IsLongest Literal text.toList n →
      readLeading text =
        if n.form = .hexadecimal then readHexadecimal (String.ofList n.text)
        else readDecimal (String.ofList n.text) := by
  have hsome (n : Numeral) :
      leading? text.toList = some n ↔ IsLongest Literal text.toList n :=
    leading?_eq_some_iff.trans (isLongest_literal_iff hbasic).symm
  have hnone :
      leading? text.toList = none ↔ ∀ form part, part <+: text.toList → ¬Literal form part := by
    rw [leading?_eq_none_iff]
    refine forall_congr' fun form => forall_congr' fun part => forall_congr' fun hpart => ?_
    rw [literal_iff_spelled hbasic form hpart]
  refine ⟨hsome, hnone, fun h => ?_, fun n h => ?_⟩
  · rw [readLeading, hnone.mpr h]
  · rw [readLeading, (hsome n).mpr h]
    obtain ⟨form, written⟩ := n
    cases form <;> rfl

/-- Whether all characters are basic can be computed. -/
theorem basic_of_all {cs : List Char} (h : cs.all (fun c => c.toNat < 0x80) = true) :
    ∀ c ∈ cs, c.toNat < 0x80 :=
  fun c hc => of_decide_eq_true (List.all_eq_true.mp h c hc)

/-- A hexadecimal numeral before a second point, a zero whose `x` has no digits, digits whose
exponent has none, a name that is cut short, and a point alone. -/
theorem readLeading_longest_cut :
    (∀ c ∈ "-0x.8P+3.5".toList, c.toNat < 0x80) ∧
      IsLongest Literal "-0x.8P+3.5".toList ⟨.hexadecimal, "-0x.8P+3".toList⟩ ∧
      readLeading "-0x.8P+3.5" = readHexadecimal "-0x.8P+3" ∧
      IsLongest Literal "0x.p1".toList ⟨.decimal, "0".toList⟩ ∧
      IsLongest Literal "+1.E-x".toList ⟨.decimal, "+1.".toList⟩ ∧
      IsLongest Literal "Infinit".toList ⟨.word, "Inf".toList⟩ ∧
      ∀ form part, part <+: "-.e5".toList → ¬Literal form part := by
  have hhex : ∀ c ∈ "-0x.8P+3.5".toList, c.toNat < 0x80 := basic_of_all (by decide)
  have hlongest : IsLongest Literal "-0x.8P+3.5".toList ⟨.hexadecimal, "-0x.8P+3".toList⟩ :=
    ((readLeading_longest hhex).1 _).mp (by decide)
  have hread := (readLeading_longest hhex).2.2.2 _ hlongest
  rw [if_pos rfl, String.ofList_toList] at hread
  exact ⟨hhex, hlongest, hread,
    ((readLeading_longest (basic_of_all (by decide))).1 _).mp (by decide),
    ((readLeading_longest (basic_of_all (by decide))).1 _).mp (by decide),
    ((readLeading_longest (basic_of_all (by decide))).1 _).mp (by decide),
    (readLeading_longest (basic_of_all (by decide))).2.1.mp (by decide)⟩

end Numeral

end TerminalConfig
