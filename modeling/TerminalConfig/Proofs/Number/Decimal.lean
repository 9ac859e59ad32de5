/-
Numbers in decimal digits, and what is read of them.

The digits that are written are the ten basic ones.  They are neither white space nor
signs, so the reader goes straight to the digits, and it takes all of them.
-/
import TerminalConfig.Number.Numeral
import TerminalConfig.Proofs.Text.Digit
import TerminalConfig.Proofs.Text.Trim

namespace TerminalConfig

open Text

namespace Numeral

/-! ### Basic digits -/

/-- The value of a basic digit. -/
def basicDigit (c : Char) : Nat :=
  c.toNat - '0'.toNat

theorem decimalDigit?_of_isDigit {c : Char} (h : c.isDigit = true) :
    decimalDigit? c = some (basicDigit c) := by
  rw [Char.isDigit_iff_toNat] at h
  have hlow : ¬c.toNat < 0x30 := Nat.not_lt.mpr h.1
  have hhigh : c.toNat < 0x30 + 10 := Nat.lt_succ_of_le h.2
  rw [decimalDigit?, decimalZeros, digitAmong, if_neg hlow, if_pos hhigh, basicDigit]
  rfl

theorem isDecimalDigit_of_isDigit {c : Char} (h : c.isDigit = true) : isDecimalDigit c = true := by
  rw [isDecimalDigit, decimalDigit?_of_isDigit h, Option.isSome_some]

/-! ### White space -/

/-- What counts as white space around a numeral is white space. -/
theorem isSpace_of_isWhitespace {c : Char} (h : isWhitespace c = false) : isSpace c = false := by
  unfold isSpace
  split
  · have hspace : c ≠ ' ' := by
      rintro rfl
      exact absurd h (by decide)
    simp only [isWhitespace, whitespaceRanges, inRanges] at h
    grind
  · exact h

theorem isWhitespace_of_isDigit {c : Char} (h : c.isDigit = true) : isWhitespace c = false :=
  isWhitespace_of_isDecimalDigit (isDecimalDigit_of_isDigit h)

theorem isSpace_of_isDigit {c : Char} (h : c.isDigit = true) : isSpace c = false :=
  isSpace_of_isWhitespace (isWhitespace_of_isDigit h)

/-! ### Runs of digits -/

/-- The value of a decimal digit of any script. -/
def digitValue (c : Char) : Nat :=
  (decimalDigit? c).getD 0

/-- Where no digit stands, no digit is taken. -/
theorem digitRun_of_head {cs : List Char} (h : ∀ c ∈ cs.head?, isDecimalDigit c = false) :
    digitRun cs = ([], cs) := by
  rw [digitRun.eq_def]
  split <;> simp_all [isDecimalDigit]

/-- Digits are taken as far as they go. -/
theorem digitRun_append {ds tail : List Char} (hds : ∀ d ∈ ds, isDecimalDigit d = true)
    (htail : ∀ c ∈ tail.head?, isDecimalDigit c = false ∧ c ≠ '_') :
    digitRun (ds ++ tail) = (ds.map digitValue, tail) := by
  induction ds with
  | nil => exact digitRun_of_head fun c hc => (htail c hc).1
  | cons d ds ih =>
      obtain ⟨hd, hds⟩ := List.forall_mem_cons.mp hds
      obtain ⟨v, hv⟩ := Option.isSome_iff_exists.mp hd
      have hnext : ∀ rest, ds ++ tail = '_' :: rest → False := by
        intro rest heq
        cases ds with
        | nil => exact (htail '_' (by simp [show tail = '_' :: rest from heq])).2 rfl
        | cons e ds =>
            obtain ⟨rfl, -⟩ := List.cons.inj heq
            exact absurd (hds '_' (by simp)) (by decide)
      rw [List.cons_append, digitRun.eq_3 d _ hnext, hv, ih hds]
      simp [digitValue, hv]

/-- Digits are taken as a whole if nothing comes after them. -/
theorem digitRun_of_forall {ds : List Char} (hds : ∀ d ∈ ds, isDecimalDigit d = true) :
    digitRun ds = (ds.map digitValue, []) := by
  have happend := @digitRun_append ds [] hds (by simp)
  simpa using happend

/-- A run of basic digits is taken as a whole. -/
theorem digitRun_of_isDigit {cs : List Char} (h : ∀ c ∈ cs, c.isDigit = true) :
    digitRun cs = (cs.map basicDigit, []) := by
  have hvalues : cs.map digitValue = cs.map basicDigit := by
    refine List.map_congr_left fun c hc => ?_
    rw [digitValue, decimalDigit?_of_isDigit (h c hc), Option.getD_some]
  rw [digitRun_of_forall fun c hc => isDecimalDigit_of_isDigit (h c hc), hvalues]

theorem sign_of_isDigit {cs : List Char} (h : ∀ c ∈ cs, c.isDigit = true) :
    sign cs = (false, cs) := by
  unfold sign
  split
  · exact absurd (h '+' (by simp)) (by decide)
  · exact absurd (h '-' (by simp)) (by decide)
  · rfl

/-- The value of basic digits. -/
theorem value_map_basicDigit (n : Nat) :
    value 10 ((Nat.toDigits 10 n).map basicDigit) = n := by
  have hfold : value 10 ((Nat.toDigits 10 n).map basicDigit) =
      Nat.ofDigitChars 10 (Nat.toDigits 10 n) 0 := by
    rw [value, List.foldl_map, Nat.ofDigitChars_eq_foldl]
    simp only [basicDigit, Nat.mul_comm]
  rw [hfold, Nat.ofDigitChars_ten_toDigits]

end Numeral

/-- Numbers from 0 on are written in digits alone. -/
theorem toList_toString_isDigit {n : Int} (h : 0 ≤ n) :
    ∀ c ∈ (toString n).toList, c.isDigit = true := by
  obtain ⟨n, rfl⟩ := Int.eq_ofNat_of_zero_le h
  intro c hc
  have hdigits : (toString (n : Int)).toList = Nat.toDigits 10 n := Nat.toList_repr
  rw [hdigits] at hc
  exact Nat.isDigit_of_mem_toDigits (by decide) (by decide) hc

/-- A number of 32 bits does not have too many digits. -/
theorem length_toString_le_of_lt {n : Nat} (h : n < UInt32.size) :
    (toString n).length ≤ Numeral.digitLimit := by
  have hten : (toString n).length ≤ 10 :=
    (Nat.length_repr_le_iff (by decide)).mpr (Nat.lt_trans h (by decide))
  exact Nat.le_trans hten (by decide)

theorem length_toString_le {n : Int} (hlow : 0 ≤ n) (hhigh : n < 1000) :
    (toString n).length ≤ Numeral.digitLimit := by
  obtain ⟨n, rfl⟩ := Int.eq_ofNat_of_zero_le hlow
  exact length_toString_le_of_lt (Nat.lt_trans (Int.ofNat_lt.mp hhigh) (by decide))

/-- Nothing of a number is trimmed. -/
theorem trimmed_toString {n : Int} (h : 0 ≤ n) : trimmed (toString n) = toString n := by
  have htrim : trim (toString n).toList = (toString n).toList :=
    trimWith_of_forall fun c hc =>
      Numeral.isWhitespace_of_isDigit (toList_toString_isDigit h c hc)
  rw [trimmed, htrim, String.ofList_toList]

/-- Digits behind a sign are read with that sign. -/
theorem readInteger_of_sign {s : List Char} {negative : Bool} {n : Nat}
    (hs : ∀ c ∈ s, Numeral.isSpace c = false)
    (hsign : Numeral.sign (s ++ Nat.toDigits 10 n) = (negative, Nat.toDigits 10 n))
    (h : (toString n).length ≤ Numeral.digitLimit) :
    readInteger (String.ofList (s ++ Nat.toDigits 10 n)) = .ok (Numeral.signed negative n) := by
  have hdigits : ∀ c ∈ Nat.toDigits 10 n, c.isDigit = true :=
    fun c hc => Nat.isDigit_of_mem_toDigits (by decide) (by decide) hc
  have htrim : trimWith Numeral.isSpace (s ++ Nat.toDigits 10 n) = s ++ Nat.toDigits 10 n :=
    trimWith_of_forall (List.forall_mem_append.mpr
      ⟨hs, fun c hc => Numeral.isSpace_of_isDigit (hdigits c hc)⟩)
  have hlength : ¬Numeral.digitLimit < ((Nat.toDigits 10 n).map Numeral.basicDigit).length := by
    rw [List.length_map]
    rw [Nat.toString_eq_ofList_toDigits, String.length_ofList] at h
    omega
  have hnonempty : ¬(((Nat.toDigits 10 n).map Numeral.basicDigit).isEmpty ||
      ([] : List Char).head? == some '_') = true := by
    simp [Nat.toDigits_ne_nil]
  rw [readInteger, String.toList_ofList, htrim, hsign]
  simp only [Numeral.digitRun_of_isDigit hdigits]
  rw [if_neg hnonempty, if_neg hlength, if_pos List.isEmpty_nil, Numeral.value_map_basicDigit]

/-- **A number in decimal is read as that number**, unless it has too many digits. -/
theorem readInteger_toString {n : Nat} (h : (toString n).length ≤ Numeral.digitLimit) :
    readInteger (toString n) = .ok n := by
  have hsign : Numeral.sign (Nat.toDigits 10 n) = (false, Nat.toDigits 10 n) :=
    Numeral.sign_of_isDigit fun c hc => Nat.isDigit_of_mem_toDigits (by decide) (by decide) hc
  rw [Nat.toString_eq_ofList_toDigits]
  exact readInteger_of_sign (s := []) (by simp) hsign h

/-- An integer in decimal is read as that integer, with a minus if it is below zero. -/
theorem readInteger_toString_int {n : Int}
    (h : (toString n.natAbs).length ≤ Numeral.digitLimit) : readInteger (toString n) = .ok n := by
  cases n with
  | ofNat n => exact readInteger_toString h
  | negSucc n =>
      have htext : toString (Int.negSucc n) = String.ofList ('-' :: Nat.toDigits 10 (n + 1)) := by
        have hparts : toString (Int.negSucc n) = "-" ++ toString (n + 1) := rfl
        rw [hparts, Nat.toString_eq_ofList_toDigits, ← String.toList_inj]
        simp
      have hspace : ∀ c ∈ ['-'], Numeral.isSpace c = false := by
        intro c hc
        rw [List.mem_singleton.mp hc]
        decide
      have hsign : Numeral.sign (['-'] ++ Nat.toDigits 10 (n + 1)) =
          (true, Nat.toDigits 10 (n + 1)) := rfl
      have hread : readInteger (String.ofList (['-'] ++ Nat.toDigits 10 (n + 1))) =
          .ok (Numeral.signed true (n + 1)) := readInteger_of_sign hspace hsign h
      rw [htext]
      exact hread

/-- An integer that is written is read back. -/
theorem readInteger_of_writeInteger {n : Int} {text : String} (h : writeInteger n = .ok text) :
    readInteger text = .ok n := by
  unfold writeInteger at h
  split at h
  · cases h
  · rename_i hlength
    obtain rfl := Except.ok.inj h
    exact readInteger_toString_int (Nat.not_lt.mp hlength)

end TerminalConfig
