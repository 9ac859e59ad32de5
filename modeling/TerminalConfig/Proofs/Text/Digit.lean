/-
Digits by their code points.

Each script has its ten decimal digits in a row, so a digit is within ten of the zero of its
script.  Only the first row is of basic characters, and white space is in none.  Hexadecimal
digits are basic characters throughout.
-/
import TerminalConfig.Text.DecimalDigit
import TerminalConfig.Text.HexDigit
import TerminalConfig.Text.Whitespace

namespace TerminalConfig.Text

/-! ### Decimal digits -/

theorem digitAmong_eq_some {code d : Nat} {zeros : List Nat} (h : digitAmong code zeros = some d) :
    ∃ z ∈ zeros, d < 10 ∧ code = z + d := by
  induction zeros with
  | nil => cases h
  | cons z zeros ih =>
      rw [digitAmong] at h
      split at h
      · cases h
      · split at h
        · cases h
          exact ⟨z, by simp, by omega, by omega⟩
        · obtain ⟨z', hz', hd⟩ := ih h
          exact ⟨z', List.mem_cons_of_mem _ hz', hd⟩

/-- The other scripts have no digit among the basic characters. -/
theorem isDigit_of_isDecimalDigit {c : Char} (hbasic : c.toNat < 0x80)
    (h : isDecimalDigit c = true) : c.isDigit = true := by
  have hzeros : ∀ z ∈ decimalZeros, z = 0x30 ∨ 0x80 ≤ z := by decide
  obtain ⟨d, hd⟩ := Option.isSome_iff_exists.mp h
  obtain ⟨z, hz, hlt, hcode⟩ := digitAmong_eq_some hd
  rw [Char.isDigit_iff_toNat]
  rcases hzeros z hz with rfl | hhigh
  · exact ⟨by simp [hcode], by simp [hcode]; omega⟩
  · omega

theorem isWhitespace_of_isDecimalDigit {c : Char} (h : isDecimalDigit c = true) :
    isWhitespace c = false := by
  have htable : ∀ z ∈ decimalZeros, ∀ d : Fin 10,
      inRanges (z + d.val) whitespaceRanges = false := by
    decide +kernel
  obtain ⟨d, hd⟩ := Option.isSome_iff_exists.mp h
  obtain ⟨z, hz, hlt, hcode⟩ := digitAmong_eq_some hd
  rw [isWhitespace, hcode]
  exact htable z hz ⟨d, hlt⟩

/-! ### Hexadecimal digits -/

variable {c : Char} {d : Nat}

theorem hexDigit?_eq_some (h : hexDigit? c = some d) :
    c.toNat < 0x80 ∧ d < 16 := by
  have hle (a b : Char) : a ≤ b ↔ a.toNat ≤ b.toNat :=
    Char.le_def.trans UInt32.le_iff_toNat_le
  unfold hexDigit? at h
  simp only [hle] at h
  grind

theorem toNat_lt_of_hexDigit? (h : hexDigit? c = some d) : c.toNat < 0x80 :=
  (hexDigit?_eq_some h).1

theorem hexDigit?_lt (h : hexDigit? c = some d) : d < 16 :=
  (hexDigit?_eq_some h).2

end TerminalConfig.Text
