/-
How the numeral that a text begins with is spelled.

The numeral is cut out of the text by a rule that goes through it once.  `Spelling` says
what comes of that without the text around it: a numeral is digits of its class with a
point or none and an exponent or none, or a name.  Letters are compared by case folding,
and digits of an exponent may be of any script, so not every spelling is in basic
characters.
-/
import TerminalConfig.Number.Prefix
import Mathlib.Data.List.Forall2
import Mathlib.Data.List.TakeWhile

namespace TerminalConfig

open Text

namespace Numeral

/-! ### Letters -/

/-- A character whose small letter is `letter` is that letter, or stands before it at the
distance of the cases. -/
theorem toNat_of_toLower {letter c : Char} (h : c.toLower = letter) :
    c.toNat = letter.toNat ∨ c.toNat + 32 = letter.toNat := by
  subst h
  unfold Char.toLower
  split
  · rename_i hupper
    have hhigh : c.toNat ≤ 'Z'.toNat := hupper.2
    have hsum : (c.val + ('a'.val - 'A'.val)).toNat = c.toNat + 32 := by
      rw [UInt32.toNat_add]
      exact Nat.mod_eq_of_lt (by simp at hhigh ⊢; omega)
    exact Or.inr hsum.symm
  · exact Or.inl rfl

/-- The characters that count as a letter, by their code points. -/
theorem toNat_of_isLetter {letter c : Char} (h : isLetter letter c = true) :
    c.toNat = letter.toNat ∨ c.toNat + 32 = letter.toNat ∨
      letter = 'i' ∧ (c.toNat = 0x130 ∨ c.toNat = 0x131) := by
  simp only [isLetter, Bool.or_eq_true, Bool.and_eq_true, beq_iff_eq] at h
  rcases h with hlower | hdot
  · rcases toNat_of_toLower hlower with hsame | hbefore
    · exact Or.inl hsame
    · exact Or.inr (Or.inl hbefore)
  · exact Or.inr (Or.inr hdot)

/-- No letter but `i` has further characters that count as it. -/
theorem eq_of_isLetter {letter c : Char} (hletter : letter ≠ 'i') (h : isLetter letter c = true) :
    c = letter ∨ c = Char.ofNat (letter.toNat - 32) := by
  rcases toNat_of_isLetter h with hsame | hbefore | ⟨hi, -⟩
  · exact Or.inl (Char.toNat_inj.mp hsame)
  · right
    rw [← hbefore, Nat.add_sub_cancel, Char.ofNat_toNat]
  · exact absurd hi hletter

/-- A basic character that is a letter has that letter as its small one. -/
theorem toLower_of_isLetter {letter c : Char} (hbasic : c.toNat < 0x80)
    (h : isLetter letter c = true) : c.toLower = letter := by
  have hdotted : c.toNat ≠ 0x130 := by omega
  have hdotless : c.toNat ≠ 0x131 := by omega
  simpa [isLetter, hdotted, hdotless] using h

/-! ### Spellings -/

/-- Digits of a class with at most one point, and at least one digit. -/
inductive Digits (isDigit : Char → Bool) : List Char → Prop
  | whole {ds : List Char} (hds : ∀ d ∈ ds, isDigit d = true) (hne : ds ≠ []) : Digits isDigit ds
  | pointed {whole part : List Char} (hwhole : ∀ d ∈ whole, isDigit d = true)
      (hpart : ∀ d ∈ part, isDigit d = true) (hne : whole ≠ [] ∨ part ≠ []) :
      Digits isDigit (whole ++ '.' :: part)

/-- A sign or none. -/
def IsSign (s : List Char) : Prop :=
  s = [] ∨ s = ['+'] ∨ s = ['-']

/-- An exponent after its mark, or none. -/
inductive Exponent (mark : Char) : List Char → Prop
  | none : Exponent mark []
  | some {c : Char} {s ds : List Char} (hmark : isLetter mark c = true) (hs : IsSign s)
      (hds : ∀ d ∈ ds, isDecimalDigit d = true) (hne : ds ≠ []) : Exponent mark (c :: (s ++ ds))

/-- The names of the values that are not finite. -/
def names : List String :=
  ["inf", "infinity", "nan"]

/-- How a numeral is spelled after its sign. -/
inductive Spelling : NumeralForm → List Char → Prop
  | hexadecimal {x : Char} {digits e : List Char} (hx : isLetter 'x' x = true)
      (hdigits : Digits isHexDigit digits) (he : Exponent 'p' e) :
      Spelling .hexadecimal ('0' :: x :: (digits ++ e))
  | decimal {digits e : List Char} (hdigits : Digits isDecimalDigit digits)
      (he : Exponent 'e' e) : Spelling .decimal (digits ++ e)
  | word {name : String} {text : List Char} (hname : name ∈ names)
      (htext : List.Forall₂ (fun letter c => isLetter letter c = true) name.toList text) :
      Spelling .word text

theorem isSign_writtenSign (cs : List Char) : IsSign (writtenSign cs).1 := by
  unfold writtenSign IsSign
  split
  · simp
  · split
    · rename_i c _ hc
      simpa using hc
    · simp

theorem digits_writtenDigits {isDigit : Char → Bool} {cs digits rest : List Char}
    (h : writtenDigits isDigit cs = (digits, rest)) (hne : digits ≠ []) :
    Digits isDigit digits := by
  unfold writtenDigits at h
  dsimp only at h
  split at h
  · split at h
    · cases h
      exact absurd rfl hne
    · rename_i more _ hsome
      cases h
      refine .pointed (fun _ => List.mem_takeWhile_imp) (fun _ => List.mem_takeWhile_imp) ?_
      rw [← not_and_or]
      simpa using hsome
  · cases h
    exact .whole (fun _ => List.mem_takeWhile_imp) hne

theorem exponent_writtenExponent (mark : Char) (cs : List Char) :
    Exponent mark (writtenExponent mark cs) := by
  unfold writtenExponent
  split
  · exact .none
  · rename_i c cs
    split
    · rename_i hmark
      dsimp only
      split
      · exact .none
      · rename_i digits hne
        refine .some hmark (isSign_writtenSign cs) (fun _ => List.mem_takeWhile_imp) ?_
        exact hne
    · exact .none

theorem forall₂_of_spelled? {word cs written rest : List Char}
    (h : spelled? word cs = some (written, rest)) :
    List.Forall₂ (fun letter c => isLetter letter c = true) word written := by
  induction word generalizing cs written with
  | nil =>
      cases h
      exact .nil
  | cons letter word ih =>
      cases cs with
      | nil => cases h
      | cons c cs =>
          rw [spelled?] at h
          split at h
          · rename_i hletter
            obtain ⟨⟨more, rest'⟩, hmore, heq⟩ := Option.map_eq_some_iff.mp h
            cases heq
            exact .cons hletter (ih hmore)
          · cases h

theorem spelling_writtenHexadecimal? {cs text : List Char}
    (h : writtenHexadecimal? cs = some text) : Spelling .hexadecimal text := by
  unfold writtenHexadecimal? at h
  split at h
  · split at h
    · rename_i hx
      split at h
      · cases h
      · rename_i digits rest hne hdigits
        cases h
        exact .hexadecimal hx (digits_writtenDigits hdigits hne)
          (exponent_writtenExponent 'p' rest)
    · cases h
  · cases h

theorem spelling_writtenDecimal? {cs text : List Char} (h : writtenDecimal? cs = some text) :
    Spelling .decimal text := by
  unfold writtenDecimal? at h
  split at h
  · cases h
  · rename_i digits rest hne hdigits
    cases h
    exact .decimal (digits_writtenDigits hdigits hne)
      (exponent_writtenExponent 'e' rest)

theorem spelling_writtenWord? {cs text : List Char} (h : writtenWord? cs = some text) :
    Spelling .word text := by
  unfold writtenWord? at h
  split at h
  · rename_i short rest hshort
    split at h
    · rename_i more _ hmore
      cases h
      have hboth := List.rel_append (forall₂_of_spelled? hshort) (forall₂_of_spelled? hmore)
      exact @Spelling.word "infinity" _ (by decide) hboth
    · cases h
      exact @Spelling.word "inf" _ (by decide) (forall₂_of_spelled? hshort)
  · obtain ⟨⟨written, rest⟩, hwritten, rfl⟩ := Option.map_eq_some_iff.mp h
    exact @Spelling.word "nan" _ (by decide) (forall₂_of_spelled? hwritten)

/-- What a text begins with is a sign, or none, and a spelling of its form. -/
theorem spelling_of_leading? {cs : List Char} {n : Numeral} (h : leading? cs = some n) :
    ∃ s text, n.text = s ++ text ∧ IsSign s ∧ Spelling n.form text := by
  unfold leading? at h
  dsimp only at h
  have hsign := isSign_writtenSign cs
  split at h
  · rename_i text htext
    cases h
    exact ⟨_, _, rfl, hsign, spelling_writtenHexadecimal? htext⟩
  · split at h
    · rename_i text htext
      cases h
      exact ⟨_, _, rfl, hsign, spelling_writtenDecimal? htext⟩
    · obtain ⟨text, htext, rfl⟩ := Option.map_eq_some_iff.mp h
      exact ⟨_, _, rfl, hsign, spelling_writtenWord? htext⟩

end Numeral

end TerminalConfig
