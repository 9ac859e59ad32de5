/-
Integers that become variables.

An integer is fitted to a kind of 32 bits if it lies in the range of the kind, and is refused
otherwise.  It does not matter whether it was given as an integer or was read of a text.  By
itself an integer prefers the kind with a sign, so the other one takes only what is too large
for that.
-/
import TerminalConfig.Variable.Basic
import Mathlib.Algebra.Group.Int.Defs
import Mathlib.Algebra.Group.Nat.Defs

namespace TerminalConfig

theorem fitsInt32_iff (n : Int) : fitsInt32 n = true ↔ -2 ^ 31 ≤ n ∧ n < 2 ^ 31 := by
  have hlow : Int32.minValue.toInt = -2 ^ 31 := by decide
  have hhigh : Int32.maxValue.toInt = 2 ^ 31 - 1 := by decide
  simp only [fitsInt32, hlow, hhigh, Bool.and_eq_true, decide_eq_true_eq]
  omega

theorem fitsUInt32_iff (n : Int) : fitsUInt32 n = true ↔ 0 ≤ n ∧ n < 2 ^ 32 := by
  simp [fitsUInt32, UInt32.size]

/-- The integer that a value is. -/
def Value.integer? : Value → Option Int
  | .int32 n => some n.toInt
  | .uint32 n => some n.toNat
  | _ => none

namespace Variable

variable {raw : RawValue} {n : Int}

theorem make_int32 (name : String) (hraw : raw.integer? = .ok n) (hfit : fitsInt32 n = true) :
    make name .int32 raw = .ok ⟨name, .int32 (Int32.ofInt n)⟩ := by
  rw [make, RawValue.fit, hraw]
  exact congrArg (Except.map _) (if_pos hfit)

theorem make_uint32 (name : String) (hraw : raw.integer? = .ok n) (hfit : fitsUInt32 n = true) :
    make name .uint32 raw = .ok ⟨name, .uint32 (UInt32.ofNat n.toNat)⟩ := by
  rw [make, RawValue.fit, hraw]
  exact congrArg (Except.map _) (if_pos hfit)

theorem make_uint32_of_not_fit (name : String) (hraw : raw.integer? = .ok n)
    (hfit : fitsUInt32 n = false) : make name .uint32 raw = .error (.beyondUInt32 n) := by
  rw [make, RawValue.fit, hraw]
  exact congrArg (Except.map _) (if_neg (by simp [hfit]))

/-- An integer takes the kind with a sign if it can, and otherwise the one without. -/
theorem infer_integer (name : String) (n : Int) :
    infer name (.integer n) =
      if fitsInt32 n then .ok ⟨name, .int32 (Int32.ofInt n)⟩
      else if fitsUInt32 n then .ok ⟨name, .uint32 (UInt32.ofNat n.toNat)⟩
      else .error (.beyondUInt32 n) := by
  rw [infer, RawValue.kind]
  split
  · rename_i hfit
    exact make_int32 name rfl hfit
  · split
    · rename_i hfit
      exact make_uint32 name rfl hfit
    · rename_i hfit
      exact make_uint32_of_not_fit name rfl (by simpa using hfit)

/-- What an integer becomes by itself, if anything: a variable that keeps it. -/
theorem infer_integer_eq_ok {name : String} {v : Variable}
    (h : infer name (.integer n) = .ok v) :
    v.name = name ∧ v.value.integer? = some n ∧
      v.kind = if n < 2 ^ 31 then .int32 else .uint32 := by
  rw [infer_integer] at h
  split at h
  · rename_i hfit
    obtain ⟨hlow, hhigh⟩ := (fitsInt32_iff n).mp hfit
    cases h
    rw [if_pos hhigh, Value.integer?, Int32.toInt_ofInt_of_le hlow hhigh]
    exact ⟨rfl, rfl, rfl⟩
  · rename_i hint
    split at h
    · rename_i hfit
      obtain ⟨hlow, hhigh⟩ := (fitsUInt32_iff n).mp hfit
      have hsize : n.toNat < 2 ^ 32 := by omega
      have hlarge : ¬n < 2 ^ 31 := by
        rw [fitsInt32_iff] at hint
        omega
      cases h
      rw [if_neg hlarge, Value.integer?, UInt32.toNat_ofNat_of_lt' hsize,
        Int.toNat_of_nonneg hlow]
      exact ⟨rfl, rfl, rfl⟩
    · cases h

/-- An integer that 32 bits do not hold, with a sign or without, is refused. -/
theorem infer_integer_eq_error_iff {name : String} {e : VariableError} :
    infer name (.integer n) = .error e ↔ ¬(-2 ^ 31 ≤ n ∧ n < 2 ^ 32) ∧ e = .beyondUInt32 n := by
  rw [infer_integer]
  split
  · rename_i hfit
    rw [fitsInt32_iff] at hfit
    simp only [reduceCtorEq, false_iff, not_and]
    omega
  · rename_i hint
    rw [fitsInt32_iff] at hint
    split
    · rename_i hfit
      rw [fitsUInt32_iff] at hfit
      simp only [reduceCtorEq, false_iff, not_and]
      omega
    · rename_i hfit
      rw [fitsUInt32_iff] at hfit
      rw [Except.error.injEq, eq_comm, iff_and_self]
      omega

theorem exists_infer_integer_iff {name : String} :
    (∃ v, infer name (.integer n) = .ok v) ↔ -2 ^ 31 ≤ n ∧ n < 2 ^ 32 := by
  cases h : infer name (.integer n) with
  | error e =>
      obtain ⟨hout, -⟩ := infer_integer_eq_error_iff.mp h
      exact iff_of_false (by simp) hout
  | ok v =>
      refine iff_of_true ⟨v, rfl⟩ (Decidable.byContradiction fun hout => ?_)
      rw [infer_integer_eq_error_iff.mpr ⟨hout, rfl⟩] at h
      cases h

end Variable

end TerminalConfig
