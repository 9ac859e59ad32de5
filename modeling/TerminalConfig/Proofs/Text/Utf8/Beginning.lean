/-
Octets that begin a character.

A decoder that stands inside a character knows how many octets are missing, the bits that it
has read, and the bounds of the next octet.  `Begun` says what these four numbers have to do
with the octets read so far: the characters that begin with those octets are the characters
whose number, cut down by the missing octets, lies in the range that the bits and the bounds
give.  Everything else follows from that.

  * The range is never empty, so there is such a character.
  * An octet within the bounds leads to a longer beginning, or to the last octet of exactly one
    character.
  * An octet outside the bounds leads to no character at all.

The spelling of a character is the encoding of the standard library, which is written without
any decoder.
-/
import Mathlib
import TerminalConfig.Text.Utf8

namespace TerminalConfig.Text.Utf8

open String (utf8EncodeChar)

/-! ### The octets of a character -/

/-- The first octet of the character with a given number. -/
def lead (n : Nat) : Nat :=
  if n ≤ 0x7F then n
  else if n ≤ 0x7FF then 0xC0 + n / 64
  else if n ≤ 0xFFFF then 0xE0 + n / 4096
  else 0xF0 + n / 262144

/-- The number of octets of the character with a given number. -/
def width (n : Nat) : Nat :=
  if n ≤ 0x7F then 1 else if n ≤ 0x7FF then 2 else if n ≤ 0xFFFF then 3 else 4

theorem length_encode (c : Char) : (utf8EncodeChar c).length = width c.toNat := by
  unfold utf8EncodeChar width
  simp only [Char.toNat]
  grind

theorem head_encode (c : Char) : (utf8EncodeChar c).head? = some (UInt8.ofNat (lead c.toNat)) := by
  have hvalid : c.toNat.isValidChar := c.valid
  unfold Nat.isValidChar at hvalid
  unfold utf8EncodeChar lead
  simp only [Char.toNat] at *
  split
  · rfl
  split
  · rw [List.head?_cons, Nat.mod_eq_of_lt (by omega), Nat.add_comm]
  split
  · rw [List.head?_cons, Nat.mod_eq_of_lt (by omega), Nat.add_comm]
  · rw [List.head?_cons, Nat.mod_eq_of_lt (by omega), Nat.add_comm]

/-- An octet after the first holds six bits, and `k` octets come after it. -/
theorem getElem?_encode (c : Char) {k i : Nat} (hi : i ≠ 0) (hk : i + k + 1 = width c.toNat) :
    (utf8EncodeChar c)[i]? = some (UInt8.ofNat (0x80 + c.toNat / 64 ^ k % 64)) := by
  unfold width at hk
  unfold utf8EncodeChar
  simp only [Char.toNat] at *
  split at hk
  · omega
  rename_i h1
  rw [if_neg h1]
  split at hk
  · rename_i h2
    obtain ⟨rfl, rfl⟩ : i = 1 ∧ k = 0 := by omega
    rw [if_pos h2]
    simp [Nat.add_comm]
  rename_i h2
  rw [if_neg h2]
  split at hk
  · rename_i h3
    rw [if_pos h3]
    obtain ⟨rfl, rfl⟩ | ⟨rfl, rfl⟩ : i = 1 ∧ k = 1 ∨ i = 2 ∧ k = 0 := by omega
    all_goals simp [Nat.add_comm]
  · rename_i h3
    rw [if_neg h3]
    obtain ⟨rfl, rfl⟩ | ⟨rfl, rfl⟩ | ⟨rfl, rfl⟩ :
      i = 1 ∧ k = 2 ∨ i = 2 ∧ k = 1 ∨ i = 3 ∧ k = 0 := by omega
    all_goals simp [Nat.add_comm]

/-- The octets from 0x80 to 0xC1 and those above 0xF4 begin no character. -/
theorem lead_cases (c : Char) :
    lead c.toNat ≤ 0x7F ∨ (0xC2 ≤ lead c.toNat ∧ lead c.toNat ≤ 0xF4) := by
  have hvalid : c.toNat.isValidChar := c.valid
  unfold Nat.isValidChar at hvalid
  unfold lead
  grind

theorem singleton_isPrefix_iff {b : UInt8} {c : Char} :
    [b] <+: utf8EncodeChar c ↔ b.toNat = lead c.toNat := by
  have hlead : lead c.toNat < UInt8.size := by
    have hcases := lead_cases c
    simp only [UInt8.size]
    omega
  have hhead := head_encode c
  cases hencode : utf8EncodeChar c with
  | nil => exact absurd hencode String.utf8EncodeChar_ne_nil
  | cons first rest =>
      rw [hencode] at hhead
      obtain rfl : first = UInt8.ofNat (lead c.toNat) := Option.some.inj hhead
      rw [List.cons_prefix_cons, ← UInt8.toNat_inj, UInt8.toNat_ofNat_of_lt' hlead]
      simp

/-- No character begins with another. -/
theorem eq_of_isPrefix {c d : Char} (h : utf8EncodeChar c <+: utf8EncodeChar d) : c = d := by
  obtain ⟨rest, hrest⟩ := h
  have hleft := ByteArray.utf8DecodeChar?_utf8EncodeChar_append (b := rest.toByteArray) (c := c)
  have hright := ByteArray.utf8DecodeChar?_utf8EncodeChar_append (b := ByteArray.empty) (c := d)
  rw [← List.toByteArray_append, hrest] at hleft
  rw [ByteArray.append_empty, hleft] at hright
  exact Option.some.inj hright

theorem append_singleton_isPrefix_iff {α : Type} {xs ys : List α} {x : α} :
    xs ++ [x] <+: ys ↔ xs <+: ys ∧ ys[xs.length]? = some x := by
  constructor
  · rintro ⟨rest, rfl⟩
    exact ⟨⟨x :: rest, by simp⟩, by simp⟩
  · rintro ⟨⟨rest, rfl⟩, hx⟩
    cases rest with
    | nil => simp at hx
    | cons y rest =>
        obtain rfl : y = x := by simpa using hx
        exact ⟨rest, by simp⟩

/-! ### Beginnings -/

/-- The octets begin a character, or are all of it. -/
def Begins (octets : List UInt8) : Prop :=
  ∃ c, octets <+: utf8EncodeChar c

/-- The number has the bits that were read, and its next six agree with the bounds of the next
octet. -/
def InRange (owed bits low high n : Nat) : Prop :=
  bits * 64 + low ≤ n / 64 ^ (owed - 1) + 0x80 ∧ n / 64 ^ (owed - 1) + 0x80 ≤ bits * 64 + high

/-- What a decoder inside a character knows of the octets that it has read. -/
structure Begun (pending : List UInt8) (owed bits low high : Nat) : Prop where
  nonempty : pending ≠ []
  one_le_owed : 1 ≤ owed
  le_low : 0x80 ≤ low
  low_le_high : low ≤ high
  high_le : high ≤ 0xBF
  isValidChar : ∀ n, InRange owed bits low high n → n.isValidChar
  width_eq : ∀ n, InRange owed bits low high n → width n = pending.length + owed
  isPrefix_iff : ∀ c, pending <+: utf8EncodeChar c ↔ InRange owed bits low high c.toNat
  /-- The bound by which the decoder knows the octet that may begin a surrogate. -/
  surrogate : high = 0x9F → pending = [0xED]

/-- One octet is a beginning if its range holds the characters that it leads. -/
theorem begun_of_lead {b : UInt8} {owed bits low high : Nat} (hone : 1 ≤ owed) (hlow : 0x80 ≤ low)
    (horder : low ≤ high) (hhigh : high ≤ 0xBF)
    (hvalid : ∀ n, InRange owed bits low high n → n.isValidChar)
    (hwidth : ∀ n, InRange owed bits low high n → width n = 1 + owed)
    (hlead : ∀ n, n.isValidChar → (b.toNat = lead n ↔ InRange owed bits low high n))
    (hsurrogate : high = 0x9F → b.toNat = 0xED) : Begun [b] owed bits low high where
  nonempty := List.cons_ne_nil b []
  one_le_owed := hone
  le_low := hlow
  low_le_high := horder
  high_le := hhigh
  isValidChar := hvalid
  width_eq := hwidth
  isPrefix_iff := fun c => singleton_isPrefix_iff.trans (hlead c.toNat c.valid)
  surrogate := fun h => by rw [show b = 0xED from UInt8.toNat_inj.mp (hsurrogate h)]

/-- What the decoder notes of a first octet is right. -/
theorem begun_first {b : UInt8} {owed bits low high : Nat}
    (h : first b.toNat = (.inside owed bits low high, [])) : Begun [b] owed bits low high := by
  unfold first at h
  repeat' split at h
  all_goals simp only [Prod.mk.injEq, State.inside.injEq, reduceCtorEq, and_true, false_and] at h
  all_goals
    obtain ⟨rfl, rfl, rfl, rfl⟩ := h
    refine begun_of_lead (by decide) (by decide) (by decide) (by decide) (fun n hn => ?_)
      (fun n hn => ?_) (fun n hn => ?_) (by omega)
    · unfold InRange at hn
      unfold Nat.isValidChar
      simp only [Nat.reduceSub, Nat.pow_zero, Nat.reducePow, Nat.div_one] at hn
      omega
    · unfold InRange at hn
      unfold width
      simp only [Nat.reduceSub, Nat.pow_zero, Nat.reducePow, Nat.div_one] at hn
      grind
    · unfold InRange lead
      unfold Nat.isValidChar at hn
      simp only [Nat.reduceSub, Nat.pow_zero, Nat.reducePow, Nat.div_one]
      grind

/-- A first octet is a character, begins one, or is none. -/
theorem first_cases (b : UInt8) :
    (∃ c, first b.toNat = (.between, [c]) ∧ utf8EncodeChar c = [b]) ∨
    (∃ owed bits low high, first b.toNat = (.inside owed bits low high, [])) ∨
    (first b.toNat = (.between, [replacement]) ∧ ¬Begins [b]) := by
  by_cases hascii : b.toNat ≤ 0x7F
  · left
    have hvalid : b.toNat.isValidChar := .inl (by omega)
    have hshort : [b] <+: utf8EncodeChar (Char.ofNat b.toNat) := by
      rw [singleton_isPrefix_iff, Char.toNat_ofNat, if_pos hvalid, lead, if_pos hascii]
    refine ⟨Char.ofNat b.toNat, ?_, (hshort.eq_of_length ?_).symm⟩
    · rw [first, if_pos hascii]
    · rw [length_encode, Char.toNat_ofNat, if_pos hvalid, width, if_pos hascii]
      rfl
  right
  by_cases hlead : 0xC2 ≤ b.toNat ∧ b.toNat ≤ 0xF4
  · left
    unfold first
    rw [if_neg hascii]
    repeat' split
    all_goals first | exact ⟨_, _, _, _, rfl⟩ | omega
  · right
    refine ⟨?_, fun ⟨c, hc⟩ => ?_⟩
    · unfold first
      grind
    · rw [singleton_isPrefix_iff] at hc
      have hcases := lead_cases c
      omega

namespace Begun

variable {pending : List UInt8} {owed bits low high : Nat} {b : UInt8}

theorem begins (h : Begun pending owed bits low high) : Begins pending := by
  have hlow := h.le_low
  have horder := h.low_le_high
  let n := (bits * 64 + low - 0x80) * 64 ^ (owed - 1)
  have hrange : InRange owed bits low high n := by
    unfold InRange
    rw [Nat.mul_div_cancel _ (Nat.pow_pos (by decide))]
    omega
  refine ⟨Char.ofNat n, (h.isPrefix_iff (Char.ofNat n)).mpr ?_⟩
  rw [Char.toNat_ofNat, if_pos (h.isValidChar _ hrange)]
  exact hrange

/-- The octet after the beginning. -/
theorem getElem?_pending (h : Begun pending owed bits low high) {c : Char}
    (hc : pending <+: utf8EncodeChar c) :
    (utf8EncodeChar c)[pending.length]? =
      some (UInt8.ofNat (c.toNat / 64 ^ (owed - 1) + 0x80 - bits * 64)) := by
  have hrange := (h.isPrefix_iff c).mp hc
  have hwidth := h.width_eq _ hrange
  have hone := h.one_le_owed
  have hlow := h.le_low
  have hhigh := h.high_le
  have hlength := List.length_pos_iff.mpr h.nonempty
  rw [getElem?_encode c (k := owed - 1) (by omega) (by omega)]
  obtain ⟨hmin, hmax⟩ := hrange
  congr 2
  omega

/-- The characters that begin with one octet more. -/
theorem append_isPrefix_iff (h : Begun pending owed bits low high) {c : Char} :
    pending ++ [b] <+: utf8EncodeChar c ↔
      (low ≤ b.toNat ∧ b.toNat ≤ high) ∧
        c.toNat / 64 ^ (owed - 1) + 0x80 = bits * 64 + b.toNat := by
  have hlow := h.le_low
  have hhigh := h.high_le
  rw [append_singleton_isPrefix_iff]
  constructor
  · rintro ⟨hc, hb⟩
    rw [h.getElem?_pending hc, Option.some.injEq, ← UInt8.toNat_inj] at hb
    obtain ⟨hmin, hmax⟩ := (h.isPrefix_iff c).mp hc
    rw [UInt8.toNat_ofNat_of_lt' (by simp only [UInt8.size]; omega)] at hb
    omega
  · rintro ⟨⟨hmin, hmax⟩, hn⟩
    have hc : pending <+: utf8EncodeChar c := (h.isPrefix_iff c).mpr ⟨by omega, by omega⟩
    refine ⟨hc, ?_⟩
    rw [h.getElem?_pending hc, hn, Nat.add_sub_cancel_left, UInt8.ofNat_toNat]

/-- An octet within the bounds that is not the last. -/
theorem push (h : Begun pending owed bits low high) (howed : 1 < owed)
    (hb : low ≤ b.toNat ∧ b.toNat ≤ high) :
    Begun (pending ++ [b]) (owed - 1) (bits * 64 + (b.toNat - 0x80)) 0x80 0xBF := by
  have hlow := h.le_low
  obtain ⟨k, rfl⟩ : ∃ k, owed = k + 2 := ⟨owed - 2, by omega⟩
  have hquotient (n : Nat) : n / 64 ^ (k + 1) = n / 64 ^ k / 64 := by
    rw [Nat.pow_succ, Nat.div_div_eq_div_mul]
  -- the six bits of the octet leave the next six free
  have hrange (n : Nat) : InRange (k + 1) (bits * 64 + (b.toNat - 0x80)) 0x80 0xBF n ↔
      n / 64 ^ (k + 1) + 0x80 = bits * 64 + b.toNat := by
    unfold InRange
    rw [Nat.add_sub_cancel, hquotient]
    omega
  have hwider (n : Nat) (hn : InRange (k + 1) (bits * 64 + (b.toNat - 0x80)) 0x80 0xBF n) :
      InRange (k + 2) bits low high n := by
    rw [hrange] at hn
    unfold InRange
    rw [show k + 2 - 1 = k + 1 by omega]
    omega
  refine ⟨by simp, by omega, by omega, by omega, by omega,
    fun n hn => h.isValidChar n (hwider n hn), fun n hn => ?_, fun c => ?_, by omega⟩
  · rw [h.width_eq n (hwider n hn), List.length_append, List.length_singleton]
    omega
  · rw [h.append_isPrefix_iff, and_iff_right hb]
    exact (hrange c.toNat).symm

/-- An octet within the bounds that is the last. -/
theorem encode_last (h : Begun pending 1 bits low high) (hb : low ≤ b.toNat ∧ b.toNat ≤ high) :
    utf8EncodeChar (Char.ofNat (bits * 64 + (b.toNat - 0x80))) = pending ++ [b] := by
  have hlow := h.le_low
  have hrange : InRange 1 bits low high (bits * 64 + (b.toNat - 0x80)) := by
    unfold InRange
    rw [Nat.sub_self, Nat.pow_zero, Nat.div_one]
    omega
  have hnumber := (Char.toNat_ofNat _).trans (if_pos (h.isValidChar _ hrange))
  have hshort : pending ++ [b] <+:
      utf8EncodeChar (Char.ofNat (bits * 64 + (b.toNat - 0x80))) := by
    rw [h.append_isPrefix_iff, hnumber, Nat.sub_self, Nat.pow_zero, Nat.div_one]
    omega
  refine (hshort.eq_of_length ?_).symm
  rw [length_encode, hnumber, h.width_eq _ hrange, List.length_append, List.length_singleton]

/-- No longer beginning stands before an octet outside the bounds, or at the end. -/
theorem length_le_of_refused (h : Begun pending owed bits low high) {rest : List UInt8}
    (hrest : ∀ b ∈ rest.head?, ¬(low ≤ b.toNat ∧ b.toNat ≤ high)) {longer : List UInt8}
    (hlonger : longer <+: pending ++ rest) (hbegins : Begins longer) :
    longer.length ≤ pending.length := by
  obtain ⟨c, hc⟩ := hbegins
  refine Nat.le_of_not_lt fun hlt => ?_
  obtain ⟨more, rfl⟩ := List.prefix_of_prefix_length_le (List.prefix_append pending rest) hlonger
    (Nat.le_of_lt hlt)
  cases more with
  | nil => simp at hlt
  | cons b more =>
      have hhead : b ∈ rest.head? := by
        obtain ⟨tail, htail⟩ := (List.prefix_append_right_inj pending).mp hlonger
        rw [← htail]
        rfl
      have hpushed : pending ++ [b] <+: utf8EncodeChar c :=
        List.IsPrefix.trans ⟨more, by simp⟩ hc
      exact hrest b hhead (h.append_isPrefix_iff.mp hpushed).1

/-- And no character is spelled there. -/
theorem not_encode_of_refused (h : Begun pending owed bits low high) {rest : List UInt8}
    (hrest : ∀ b ∈ rest.head?, ¬(low ≤ b.toNat ∧ b.toNat ≤ high)) (c : Char) :
    ¬utf8EncodeChar c <+: pending ++ rest := by
  intro hc
  have hlength := h.length_le_of_refused hrest hc ⟨c, List.prefix_refl _⟩
  have hshort := List.prefix_of_prefix_length_le hc (List.prefix_append pending rest) hlength
  obtain ⟨d, hd⟩ := h.begins
  obtain rfl := eq_of_isPrefix (hshort.trans hd)
  have hone := h.one_le_owed
  rw [length_encode, h.width_eq _ ((h.isPrefix_iff c).mp hd)] at hlength
  omega

end Begun

end TerminalConfig.Text.Utf8
