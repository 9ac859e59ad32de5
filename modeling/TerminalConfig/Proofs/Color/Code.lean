/-
Color codes, and the colors that are read of them.

A channel between 0 and 255 is written in two digits, the sixteens and the ones, and the
reader puts the two together again.  What else there is to a code, the number sign and the
white space that may stand around it, is settled once for all lengths.

Two digits come to no more than 255, so every color that is read has a code.
-/
import TerminalConfig.Color.Basic
import TerminalConfig.Proofs.Text.Digit
import TerminalConfig.Proofs.Text.Trim

namespace TerminalConfig

open Text

theorem of_bind_eq_ok {ε α β : Type} {x : Except ε α} {f : α → Except ε β} {b : β}
    (h : x >>= f = .ok b) : ∃ a, x = .ok a ∧ f a = .ok b := by
  cases x with
  | error e => cases h
  | ok a => exact ⟨a, rfl, h⟩

namespace Color

/-! ### Digits -/

/-- A digit as it is written in a code. -/
def codeDigit (d : Nat) : Char :=
  (Nat.digitChar d).toUpper

/-- The digits that are written. -/
def codeDigits : List Char :=
  "0123456789ABCDEF".toList

theorem hexDigit?_codeDigit {d : Nat} (h : d < 16) : hexDigit? (codeDigit d) = some d := by
  have hall : ∀ d : Fin 16, hexDigit? (codeDigit d) = some d.val := by decide
  exact hall ⟨d, h⟩

theorem codeDigit_mem {d : Nat} (h : d < 16) : codeDigit d ∈ codeDigits := by
  have hall : ∀ d : Fin 16, codeDigit d ∈ codeDigits := by decide
  exact hall ⟨d, h⟩

theorem digit_lt {c : Char} {d : Nat} (h : digit c = .ok d) : d < 16 := by
  unfold digit at h
  split at h
  · rename_i n hn
    obtain rfl := Except.ok.inj h
    exact hexDigit?_lt hn
  · cases h

/-! ### Channels -/

/-- A number below 256 in two digits. -/
theorem hexCode_two {n : Nat} (h : n < 256) :
    hexCode 2 n = [Nat.digitChar (n / 16), Nat.digitChar (n % 16)] := by
  unfold hexCode
  by_cases hsmall : n < 16
  · rw [Nat.toDigits_of_lt_base hsmall, Nat.div_eq_of_lt hsmall, Nat.mod_eq_of_lt hsmall]
    rfl
  · rw [Nat.toDigits_of_base_le (by decide) (Nat.not_lt.mp hsmall),
      Nat.toDigits_of_lt_base (by omega)]
    rfl

/-- A channel that has a code. -/
def IsChannel (n : Int) : Prop :=
  0 ≤ n ∧ n ≤ 255

instance (n : Int) : Decidable (IsChannel n) :=
  inferInstanceAs (Decidable (0 ≤ n ∧ n ≤ 255))

theorem channelText_eq {n : Int} (h : IsChannel n) :
    channelText n = [codeDigit (n.toNat / 16), codeDigit (n.toNat % 16)] := by
  obtain ⟨hlow, hhigh⟩ := h
  have habs : n.natAbs = n.toNat := by omega
  rw [channelText, if_neg (by omega), habs, hexCode_two (by omega)]
  rfl

/-- The two digits of a channel are read as that channel. -/
theorem channel_codeDigits {n : Int} (h : IsChannel n) :
    channel (codeDigit (n.toNat / 16)) (codeDigit (n.toNat % 16)) = .ok n := by
  obtain ⟨hlow, hhigh⟩ := h
  have hvalue : ((n.toNat / 16 * 16 + n.toNat % 16 : Nat) : Int) = n := by omega
  rw [channel, digit, digit, hexDigit?_codeDigit (by omega), hexDigit?_codeDigit (by omega)]
  exact congrArg Except.ok hvalue

/-- Two digits are read as a channel that has a code. -/
theorem isChannel_of_channel {high low : Char} {n : Int} (h : channel high low = .ok n) :
    IsChannel n := by
  obtain ⟨sixteens, hsixteens, h⟩ := of_bind_eq_ok h
  obtain ⟨ones, hones, h⟩ := of_bind_eq_ok h
  obtain rfl := Except.ok.inj h
  have hhigh := digit_lt hsixteens
  have hlow := digit_lt hones
  exact ⟨by omega, by omega⟩

/-! ### Codes -/

/-- Channels are written in digits. -/
theorem mem_codeDigits {channels : List Int} (h : ∀ n ∈ channels, IsChannel n) {c : Char}
    (hc : c ∈ channels.flatMap channelText) : c ∈ codeDigits := by
  obtain ⟨n, hn, hc⟩ := List.mem_flatMap.mp hc
  obtain ⟨hlow, hhigh⟩ := h n hn
  rw [channelText_eq (h n hn)] at hc
  simp only [List.mem_cons, List.not_mem_nil, or_false] at hc
  rcases hc with rfl | rfl <;> exact codeDigit_mem (by omega)

/-- A code holds nothing but digits after its number sign. -/
theorem mem_code {channels : List Int} (h : ∀ n ∈ channels, IsChannel n) {c : Char}
    (hc : c ∈ (code channels).toList) : c ∈ '#' :: codeDigits := by
  rw [code, String.toList_ofList, List.mem_cons] at hc
  rcases hc with rfl | hc
  · exact List.mem_cons_self
  · exact List.mem_cons_of_mem _ (mem_codeDigits h hc)

theorem isWhitespace_of_mem_code {channels : List Int} (h : ∀ n ∈ channels, IsChannel n) {c : Char}
    (hc : c ∈ (code channels).toList) : isWhitespace c = false := by
  have hall : ('#' :: codeDigits).all (!isWhitespace ·) = true := by decide
  simpa using List.all_eq_true.mp hall c (mem_code h hc)

/-- Nothing of a code is trimmed, and its number sign is taken off. -/
theorem bare_code {channels : List Int} (h : ∀ n ∈ channels, IsChannel n) :
    bare (code channels).toList = channels.flatMap channelText := by
  have htrim : trim (code channels).toList = (code channels).toList :=
    trimWith_of_forall fun c hc => isWhitespace_of_mem_code h hc
  rw [bare, htrim, code, String.toList_ofList]
  rfl

end Color

/-- Every channel of the color has a code. -/
def Rgb.HasCode (c : Rgb) : Prop :=
  ∀ n ∈ c.channels, Color.IsChannel n

instance (c : Rgb) : Decidable c.HasCode :=
  inferInstanceAs (Decidable (∀ n ∈ c.channels, Color.IsChannel n))

/-- Every channel of the color has a code. -/
def Rgba.HasCode (c : Rgba) : Prop :=
  ∀ n ∈ c.channels, Color.IsChannel n

instance (c : Rgba) : Decidable c.HasCode :=
  inferInstanceAs (Decidable (∀ n ∈ c.channels, Color.IsChannel n))

/-- **A color is read of its code.** -/
theorem Rgb.ofText_text {c : Rgb} (h : c.HasCode) : Rgb.ofText c.text = .ok c := by
  have hbare := Color.bare_code h
  simp only [Rgb.HasCode, Rgb.channels, List.forall_mem_cons] at h
  obtain ⟨hred, hgreen, hblue, -⟩ := h
  simp only [channels, List.flatMap_cons, List.flatMap_nil, Color.channelText_eq hred,
    Color.channelText_eq hgreen, Color.channelText_eq hblue, List.cons_append,
    List.nil_append] at hbare
  rw [Rgb.ofText, Rgb.text, channels, hbare]
  simp only [Color.channel_codeDigits hred, Color.channel_codeDigits hgreen,
    Color.channel_codeDigits hblue]
  rfl

/-- **A color with an opacity is read of its code.** -/
theorem Rgba.ofText_text {c : Rgba} (h : c.HasCode) : Rgba.ofText c.text = .ok c := by
  have hbare := Color.bare_code h
  simp only [Rgba.HasCode, Rgba.channels, List.forall_mem_cons] at h
  obtain ⟨hred, hgreen, hblue, halpha, -⟩ := h
  simp only [channels, List.flatMap_cons, List.flatMap_nil, Color.channelText_eq hred,
    Color.channelText_eq hgreen, Color.channelText_eq hblue, Color.channelText_eq halpha,
    List.cons_append, List.nil_append] at hbare
  rw [Rgba.ofText, Rgba.text, channels, hbare]
  simp only [Color.channel_codeDigits hred, Color.channel_codeDigits hgreen,
    Color.channel_codeDigits hblue, Color.channel_codeDigits halpha]
  rfl

/-- **A color that is read has a code.** -/
theorem Rgb.hasCode_of_ofText {text : String} {c : Rgb} (h : Rgb.ofText text = .ok c) :
    c.HasCode := by
  unfold Rgb.ofText at h
  split at h
  · obtain ⟨red, hred, h⟩ := of_bind_eq_ok h
    obtain ⟨green, hgreen, h⟩ := of_bind_eq_ok h
    obtain ⟨blue, hblue, h⟩ := of_bind_eq_ok h
    obtain rfl := Except.ok.inj h
    simp [HasCode, channels, Color.isChannel_of_channel hred, Color.isChannel_of_channel hgreen,
      Color.isChannel_of_channel hblue]
  · cases h

/-- **A color with an opacity that is read has a code**, also if its opacity is not written. -/
theorem Rgba.hasCode_of_ofText {text : String} {c : Rgba} (h : Rgba.ofText text = .ok c) :
    c.HasCode := by
  unfold Rgba.ofText at h
  split at h
  · obtain ⟨red, hred, h⟩ := of_bind_eq_ok h
    obtain ⟨green, hgreen, h⟩ := of_bind_eq_ok h
    obtain ⟨blue, hblue, h⟩ := of_bind_eq_ok h
    obtain ⟨alpha, halpha, h⟩ := of_bind_eq_ok h
    obtain rfl := Except.ok.inj h
    simp [HasCode, channels, Color.isChannel_of_channel hred, Color.isChannel_of_channel hgreen,
      Color.isChannel_of_channel hblue, Color.isChannel_of_channel halpha]
  · obtain ⟨red, hred, h⟩ := of_bind_eq_ok h
    obtain ⟨green, hgreen, h⟩ := of_bind_eq_ok h
    obtain ⟨blue, hblue, h⟩ := of_bind_eq_ok h
    obtain rfl := Except.ok.inj h
    have hopaque : Color.IsChannel 255 := by decide
    simp [HasCode, channels, Color.isChannel_of_channel hred, Color.isChannel_of_channel hgreen,
      Color.isChannel_of_channel hblue, hopaque]
  · cases h

end TerminalConfig
