/-
Which texts are color codes, and what is read of them.

A text spells digits if it is those digits and nothing else, but for a number sign before them
and white space around both.  No digit is white space or a number sign, so a text spells one
sequence of digits at most, and it is the one that the reader takes.

Colors with and without an opacity are read alike.  The digits are read two at a time, and an
opacity that is not written is read as if it were written in full, so there is one reader of
channels and one theorem about it.  What it reads has the digits, in capitals, as its code.
That a color is read back of its code in any spelling follows, since no two colors have one code.
-/
import Mathlib.Data.List.Basic
import TerminalConfig.Proofs.Color.Code
import TerminalConfig.Text.Lowercase

namespace TerminalConfig

open Text

namespace Color

/-! ### Digits -/

/-- The digits that are read, in either case. -/
def hexDigits : List Char :=
  "0123456789abcdefABCDEF".toList

theorem mem_hexDigits {c : Char} {d : Nat} (h : hexDigit? c = some d) : c ∈ hexDigits := by
  have hall : ∀ n : Fin 0x80, hexDigit? (Char.ofNat n) ≠ none → Char.ofNat n ∈ hexDigits := by
    decide +kernel
  have hc := hall ⟨c.toNat, toNat_lt_of_hexDigit? h⟩
  rw [Char.ofNat_toNat, h] at hc
  exact hc (by simp)

/-- A digit is read as the number whose digit in a code is its capital. -/
theorem exists_hexDigit? {c : Char} (h : c ∈ hexDigits) :
    ∃ d < 16, hexDigit? c = some d ∧ codeDigit d = c.toUpper := by
  have hall : (hexDigits.all fun c => (hexDigit? c).any (codeDigit · == c.toUpper)) = true := by
    decide
  have hc := List.all_eq_true.mp hall c h
  cases hd : hexDigit? c with
  | none =>
      rw [hd] at hc
      cases hc
  | some d =>
      rw [hd] at hc
      exact ⟨d, hexDigit?_lt hd, rfl, beq_iff_eq.mp hc⟩

theorem digit_of_not_mem {c : Char} (h : c ∉ hexDigits) : digit c = .error (.notHexDigit c) := by
  rw [digit]
  split
  · rename_i hd
    exact absurd (mem_hexDigits hd) h
  · rfl

/-! ### Channels -/

/-- The channels of digits, two digits to each. -/
def readChannels : List Char → Except ColorError (List Int)
  | [] => return []
  | [_] => return []
  | high :: low :: digits => do
    return (← channel high low) :: (← readChannels digits)

/-- Two digits are read as the channel that they are, in capitals, the code of. -/
theorem exists_channel {high low : Char} (hhigh : high ∈ hexDigits) (hlow : low ∈ hexDigits) :
    ∃ n, channel high low = .ok n ∧ IsChannel n ∧ channelText n = [high.toUpper, low.toUpper] := by
  obtain ⟨sixteens, hsixteens, hreadHigh, hcodeHigh⟩ := exists_hexDigit? hhigh
  obtain ⟨ones, hones, hreadLow, hcodeLow⟩ := exists_hexDigit? hlow
  have hread : channel high low = .ok ((sixteens * 16 + ones : Nat) : Int) := by
    rw [channel, digit, digit, hreadHigh, hreadLow]
    rfl
  have hchannel := isChannel_of_channel hread
  have hdiv : (sixteens * 16 + ones) / 16 = sixteens := by omega
  have hmod : (sixteens * 16 + ones) % 16 = ones := by omega
  refine ⟨_, hread, hchannel, ?_⟩
  rw [channelText_eq hchannel, Int.toNat_natCast, hdiv, hmod, hcodeHigh, hcodeLow]

/-- The first character that is no digit. -/
def firstOther? (digits : List Char) : Option Char :=
  digits.find? (· ∉ hexDigits)

theorem channel_eq_error_high {high low : Char} (h : high ∉ hexDigits) :
    channel high low = .error (.notHexDigit high) := by
  rw [channel, digit_of_not_mem h]
  rfl

theorem channel_eq_error_low {high low : Char} (hhigh : high ∈ hexDigits) (h : low ∉ hexDigits) :
    channel high low = .error (.notHexDigit low) := by
  obtain ⟨sixteens, -, hread, -⟩ := exists_hexDigit? hhigh
  rw [channel, digit, hread, digit_of_not_mem h]
  rfl

/-- **Digits in pairs are read as the channels whose code they are.** -/
theorem exists_readChannels (digits : List Char) (heven : digits.length % 2 = 0)
    (h : firstOther? digits = none) :
    ∃ ns, readChannels digits = .ok ns ∧ (∀ n ∈ ns, IsChannel n) ∧
      ns.flatMap channelText = digits.map Char.toUpper := by
  induction digits using readChannels.induct with
  | case1 => exact ⟨[], rfl, by simp, rfl⟩
  | case2 c => simp at heven
  | case3 high low digits ih =>
      simp only [firstOther?, List.find?_eq_none, List.forall_mem_cons, decide_eq_true_eq,
        Decidable.not_not] at h ih
      obtain ⟨hhigh, hlow, hrest⟩ := h
      obtain ⟨n, hn, hchannel, hcode⟩ := exists_channel hhigh hlow
      simp only [List.length_cons] at heven
      obtain ⟨ns, hns, hchannels, hcodes⟩ := ih (by omega) hrest
      refine ⟨n :: ns, ?_, List.forall_mem_cons.mpr ⟨hchannel, hchannels⟩, ?_⟩
      · rw [readChannels, hn, hns]
        rfl
      · rw [List.flatMap_cons, hcode, hcodes]
        rfl

/-- The first character that is no digit is what the reading stops at. -/
theorem readChannels_eq_error {c : Char} (digits : List Char) (heven : digits.length % 2 = 0)
    (h : firstOther? digits = some c) : readChannels digits = .error (.notHexDigit c) := by
  induction digits using readChannels.induct with
  | case1 => cases h
  | case2 c => simp at heven
  | case3 high low digits ih =>
      simp only [List.length_cons] at heven
      rw [readChannels]
      by_cases hhigh : high ∈ hexDigits
      · by_cases hlow : low ∈ hexDigits
        · obtain ⟨n, hn, -⟩ := exists_channel hhigh hlow
          have hrest : firstOther? digits = some c := by
            simpa [firstOther?, hhigh, hlow] using h
          rw [hn, ih (by omega) hrest]
          rfl
        · obtain rfl : low = c := by simpa [firstOther?, hhigh, hlow] using h
          rw [channel_eq_error_low hhigh hlow]
          rfl
      · obtain rfl : high = c := by simpa [firstOther?, hhigh] using h
        rw [channel_eq_error_high hhigh]
        rfl

/-! ### Spellings -/

/-- A text is digits of an allowed number, with or without a number sign before them and with
white space around. -/
structure Spells (lengths : List Nat) (text : String) (digits : List Char) : Prop where
  parts : ∃ before sign after : List Char, text.toList = before ++ ((sign ++ digits) ++ after) ∧
    (∀ c ∈ before ++ after, isWhitespace c = true) ∧ (sign = [] ∨ sign = ['#'])
  length_mem : digits.length ∈ lengths
  mem_hexDigits : ∀ c ∈ digits, c ∈ hexDigits

theorem isWhitespace_hexDigit {c : Char} (h : c ∈ '#' :: hexDigits) : isWhitespace c = false := by
  have hall : ('#' :: hexDigits).all (!isWhitespace ·) = true := by decide
  simpa using List.all_eq_true.mp hall c h

/-- The digits that are spelled are those that the reader takes. -/
theorem Spells.bare_eq {lengths : List Nat} {text : String} {digits : List Char}
    (h : Spells lengths text digits) : bare text.toList = digits := by
  obtain ⟨⟨before, sign, after, htext, hwhite, hsign⟩, -, hdigits⟩ := h
  have hsolid : ∀ c ∈ sign ++ digits, isWhitespace c = false := by
    intro c hc
    refine isWhitespace_hexDigit (List.mem_cons.mpr ?_)
    rcases List.mem_append.mp hc with hc | hc
    · rcases hsign with rfl | rfl
      · cases hc
      · exact .inl (List.mem_singleton.mp hc)
    · exact .inr (hdigits c hc)
  have htrim : trim text.toList = sign ++ digits := by
    rw [htext, trim, trimWith_append hwhite, trimWith_of_forall hsolid]
  rw [bare, htrim]
  rcases hsign with rfl | rfl
  · -- digits do not begin with a number sign
    split
    · rename_i rest hrest
      obtain rfl : digits = '#' :: rest := hrest
      exact absurd (hdigits '#' List.mem_cons_self) (by decide)
    · rfl
  · rfl

/-- A text spells what the reader takes of it, if that is digits of an allowed number. -/
theorem spells_bare {lengths : List Nat} {text : String}
    (hlength : (bare text.toList).length ∈ lengths)
    (hdigits : firstOther? (bare text.toList) = none) :
    Spells lengths text (bare text.toList) := by
  refine ⟨?_, hlength, by simpa [firstOther?] using hdigits⟩
  obtain ⟨before, after, htext, hwhite⟩ := exists_trimWith_append isWhitespace text.toList
  rw [← trim] at htext
  unfold bare
  split
  · rename_i digits hsign
    exact ⟨before, ['#'], after, by rw [htext, hsign]; rfl, hwhite, .inr rfl⟩
  · exact ⟨before, [], after, htext, hwhite, .inl rfl⟩

/-! ### Both readers at once -/

/-- The digits that stand for the channels that are not written. -/
def filling (width : Nat) (digits : List Char) : List Char :=
  List.replicate (width - digits.length) 'F'

theorem firstOther?_append_filling (width : Nat) (digits : List Char) :
    firstOther? (digits ++ filling width digits) = firstOther? digits := by
  have hnone : (filling width digits).find? (· ∉ hexDigits) = none := by
    refine List.find?_eq_none.mpr fun c hc => ?_
    rw [List.eq_of_mem_replicate hc]
    decide
  rw [firstOther?, List.find?_append, hnone, Option.or_none, firstOther?]

theorem map_toUpper_filling (width : Nat) (digits : List Char) :
    (filling width digits).map Char.toUpper = filling width digits :=
  List.map_replicate

theorem filling_of_length {width : Nat} {digits : List Char} (h : digits.length = width) :
    filling width digits = [] := by
  rw [filling, h, Nat.sub_self, List.replicate_zero]

/-- Reads a color of so many digits, of which the last may be left out. -/
def readCode (width : Nat) (lengths : List Nat) (text : String) : Except ColorError (List Int) :=
  let digits := bare text.toList
  if digits.length ∈ lengths then readChannels (digits ++ filling width digits)
  else .error (.wrongLength lengths text)

/-- **Exactly the texts that spell digits are read, and what is read has these digits as its
code.** -/
theorem readCode_spec {width : Nat} {lengths : List Nat} (hwidth : width % 2 = 0)
    (hlengths : ∀ n ∈ lengths, n ≤ width) (text : String) :
    match readCode width lengths text with
    | .ok ns => (∀ n ∈ ns, IsChannel n) ∧ ∃ digits, Spells lengths text digits ∧
        ns.flatMap channelText = digits.map Char.toUpper ++ filling width digits
    | .error _ => ¬ ∃ digits, Spells lengths text digits := by
  rw [readCode]
  by_cases hlength : (bare text.toList).length ∈ lengths
  · have heven : (bare text.toList ++ filling width (bare text.toList)).length % 2 = 0 := by
      have hle := hlengths _ hlength
      rw [filling, List.length_append, List.length_replicate]
      omega
    have hfirst := firstOther?_append_filling width (bare text.toList)
    simp only [hlength, if_true]
    cases hother : firstOther? (bare text.toList) with
    | none =>
        obtain ⟨ns, hns, hchannels, hcode⟩ := exists_readChannels _ heven (hfirst.trans hother)
        rw [hns]
        rw [List.map_append, map_toUpper_filling] at hcode
        exact ⟨hchannels, _, spells_bare hlength hother, hcode⟩
    | some c =>
        rw [readChannels_eq_error _ heven (hfirst.trans hother)]
        rintro ⟨digits, hdigits⟩
        rw [hdigits.bare_eq] at hother
        have hmem := List.mem_of_find?_eq_some hother
        exact absurd (hdigits.mem_hexDigits c hmem) (by simpa using List.find?_some hother)
  · simp only [hlength, if_false]
    rintro ⟨digits, hdigits⟩
    exact hlength (hdigits.bare_eq ▸ hdigits.length_mem)

theorem exists_of_length_eq_six {digits : List Char} (h : digits.length = 6) :
    ∃ r r' g g' b b', digits = [r, r', g, g', b, b'] := by
  obtain ⟨r, r', g, hfront⟩ := List.length_eq_three.mp (by simp [h] : (digits.take 3).length = 3)
  obtain ⟨g', b, b', hback⟩ := List.length_eq_three.mp (by simp [h] : (digits.drop 3).length = 3)
  refine ⟨r, r', g, g', b, b', ?_⟩
  rw [← List.take_append_drop 3 digits, hfront, hback]
  rfl

theorem exists_of_length_eq_eight {digits : List Char} (h : digits.length = 8) :
    ∃ r r' g g' b b' a a', digits = [r, r', g, g', b, b', a, a'] := by
  obtain ⟨r, r', g, g', b, b', hfront⟩ :=
    exists_of_length_eq_six (by simp [h] : (digits.take 6).length = 6)
  obtain ⟨a, a', hback⟩ := List.length_eq_two.mp (by simp [h] : (digits.drop 6).length = 2)
  refine ⟨r, r', g, g', b, b', a, a', ?_⟩
  rw [← List.take_append_drop 6 digits, hfront, hback]
  rfl

/-! ### Other spellings of a code -/

/-- A code in capitals and in small letters, each with and without its number sign. -/
def writings (code : String) : List (List Char) :=
  [code, lowered code].flatMap fun text => [text.toList, text.toList.tail]

theorem lowerAfter_basic {before cs : List Char} (h : ∀ c ∈ cs, c.toNat < 0x80) :
    lowerAfter before cs = cs.map Char.toLower := by
  induction cs generalizing before with
  | nil => rfl
  | cons c cs ih =>
      obtain ⟨hc, hcs⟩ := List.forall_mem_cons.mp h
      have hsigma : ¬ c.toNat = 0x3A3 := by omega
      simp only [lowerAfter, lowerChar, hc, hsigma, if_true, decide_false, Bool.false_and,
        Bool.false_eq_true, if_false, ih hcs, List.map_cons, List.singleton_append]

/-- A code has two digits to a channel. -/
theorem length_flatMap_channelText {ns : List Int} (h : ∀ n ∈ ns, IsChannel n) :
    (ns.flatMap channelText).length = 2 * ns.length := by
  induction ns with
  | nil => rfl
  | cons n ns ih =>
      obtain ⟨hn, hns⟩ := List.forall_mem_cons.mp h
      rw [List.flatMap_cons, List.length_append, channelText_eq hn, ih hns]
      simp only [List.length_cons, List.length_nil]
      omega

/-- The digits of a code are read in either case, and are its digits in capitals. -/
theorem codeDigit_cases {c : Char} (h : c ∈ codeDigits) :
    c ∈ hexDigits ∧ c.toLower ∈ hexDigits ∧ c.toUpper = c ∧ c.toLower.toUpper = c := by
  have hall : (codeDigits.all fun c => hexDigits.contains c && (hexDigits.contains c.toLower &&
      (c.toUpper == c && c.toLower.toUpper == c))) = true := by decide
  simpa only [Bool.and_eq_true, List.contains_iff_mem, beq_iff_eq] using
    List.all_eq_true.mp hall c h

/-- A writing of a code is a number sign or none, and the digits in capitals or small letters. -/
theorem mem_writings {ns : List Int} (h : ∀ n ∈ ns, IsChannel n) {written : List Char}
    (hwritten : written ∈ writings (code ns)) :
    ∃ sign digits, written = sign ++ digits ∧ (sign = [] ∨ sign = ['#']) ∧
      (digits = ns.flatMap channelText ∨ digits = (ns.flatMap channelText).map Char.toLower) := by
  have hbasic : ∀ c ∈ (code ns).toList, c.toNat < 0x80 := by
    have hall : ('#' :: codeDigits).all (·.toNat < 0x80) = true := by decide
    exact fun c hc => of_decide_eq_true (List.all_eq_true.mp hall c (mem_code h hc))
  have hsmall : (lowered (code ns)).toList = '#' :: (ns.flatMap channelText).map Char.toLower := by
    rw [lowered, String.toList_ofList, lower, lowerAfter_basic hbasic, code, String.toList_ofList]
    rfl
  have hcode : (code ns).toList = '#' :: ns.flatMap channelText := String.toList_ofList
  simp only [writings, List.flatMap_cons, List.flatMap_nil, List.append_nil, List.cons_append,
    List.nil_append, List.mem_cons, List.not_mem_nil, or_false, hsmall, hcode,
    List.tail_cons] at hwritten
  rcases hwritten with rfl | rfl | rfl | rfl
  · exact ⟨['#'], _, rfl, .inr rfl, .inl rfl⟩
  · exact ⟨[], _, rfl, .inl rfl, .inl rfl⟩
  · exact ⟨['#'], _, rfl, .inr rfl, .inr rfl⟩
  · exact ⟨[], _, rfl, .inl rfl, .inr rfl⟩

/-- Each writing of a code, with white space around it, spells the digits of the code. -/
theorem exists_spells {lengths : List Nat} {ns : List Int} (h : ∀ n ∈ ns, IsChannel n)
    (hlength : 2 * ns.length ∈ lengths) {before after written : List Char}
    (hwhite : ∀ c ∈ before ++ after, isWhitespace c = true)
    (hwritten : written ∈ writings (code ns)) :
    ∃ digits, Spells lengths (String.ofList (before ++ (written ++ after))) digits ∧
      digits.map Char.toUpper = ns.flatMap channelText := by
  obtain ⟨sign, digits, rfl, hsign, hdigits⟩ := mem_writings h hwritten
  have hparts : ∃ before' sign' after',
      (String.ofList (before ++ (sign ++ digits ++ after))).toList =
        before' ++ ((sign' ++ digits) ++ after') ∧
      (∀ c ∈ before' ++ after', isWhitespace c = true) ∧ (sign' = [] ∨ sign' = ['#']) :=
    ⟨before, sign, after, String.toList_ofList, hwhite, hsign⟩
  refine ⟨digits, ⟨hparts, ?_, ?_⟩, ?_⟩
  · rcases hdigits with rfl | rfl <;>
      simpa only [List.length_map, length_flatMap_channelText h] using hlength
  · rcases hdigits with rfl | rfl
    · exact fun c hc => (codeDigit_cases (mem_codeDigits h hc)).1
    · exact List.forall_mem_map.mpr fun c hc => (codeDigit_cases (mem_codeDigits h hc)).2.1
  · rcases hdigits with rfl | rfl
    · exact (List.map_congr_left fun c hc =>
        (codeDigit_cases (mem_codeDigits h hc)).2.2.1).trans (List.map_id _)
    · rw [List.map_map]
      exact (List.map_congr_left fun c hc =>
        (codeDigit_cases (mem_codeDigits h hc)).2.2.2).trans (List.map_id _)

end Color

/-- A color is read by reading its channels. -/
theorem Rgb.map_channels_ofText (text : String) :
    channels <$> Rgb.ofText text = Color.readCode 6 [6] text := by
  rw [Rgb.ofText, Color.readCode]
  split
  · rename_i r r' g g' b b' hbare
    rw [hbare]
    simp [Color.readChannels, Color.filling, channels]
  · rename_i hother
    have hsix : (Color.bare text.toList).length ≠ 6 := by
      intro hlength
      obtain ⟨r, r', g, g', b, b', hbare⟩ := Color.exists_of_length_eq_six hlength
      exact hother r r' g g' b b' hbare
    simp only [List.mem_singleton, hsix, if_false]
    rfl

theorem Rgba.map_channels_ofText (text : String) :
    channels <$> Rgba.ofText text = Color.readCode 8 [8, 6] text := by
  rw [Rgba.ofText, Color.readCode]
  split
  · rename_i r r' g g' b b' a a' hbare
    rw [hbare]
    simp [Color.readChannels, Color.filling, channels]
  · rename_i r r' g g' b b' hbare
    have hopaque : Color.channel 'F' 'F' = pure 255 := rfl
    rw [hbare]
    simp [Color.readChannels, Color.filling, channels, List.replicate_succ, hopaque]
  · rename_i hother hother'
    have height : (Color.bare text.toList).length ≠ 8 := by
      intro hlength
      obtain ⟨r, r', g, g', b, b', a, a', hbare⟩ := Color.exists_of_length_eq_eight hlength
      exact hother r r' g g' b b' a a' hbare
    have hsix : (Color.bare text.toList).length ≠ 6 := by
      intro hlength
      obtain ⟨r, r', g, g', b, b', hbare⟩ := Color.exists_of_length_eq_six hlength
      exact hother' r r' g g' b b' hbare
    simp only [List.mem_cons, List.not_mem_nil, height, hsix, or_self, if_false]
    rfl

/-- **Exactly the texts that spell six digits are read, and what is read has these digits as
its code.** -/
theorem Rgb.ofText_spec (text : String) :
    match Rgb.ofText text with
    | .ok c => c.HasCode ∧ ∃ digits, Color.Spells [6] text digits ∧
        c.text = String.ofList ('#' :: digits.map Char.toUpper)
    | .error _ => ¬ ∃ digits, Color.Spells [6] text digits := by
  have hread := Color.readCode_spec (by decide : 6 % 2 = 0) (by decide : ∀ n ∈ [6], n ≤ 6) text
  rw [← Rgb.map_channels_ofText] at hread
  cases hc : Rgb.ofText text with
  | error e =>
      rw [hc] at hread
      exact hread
  | ok c =>
      rw [hc] at hread
      obtain ⟨hchannels, digits, hdigits, hcode⟩ := hread
      rw [Color.filling_of_length (List.mem_singleton.mp hdigits.length_mem),
        List.append_nil] at hcode
      exact ⟨hchannels, digits, hdigits, by rw [Rgb.text, Color.code, hcode]⟩

/-- **Exactly the texts that spell eight or six digits are read, and what is read has these
digits as its code**, and if they are six those of full opacity besides. -/
theorem Rgba.ofText_spec (text : String) :
    match Rgba.ofText text with
    | .ok c => c.HasCode ∧ ∃ digits, Color.Spells [8, 6] text digits ∧
        c.text = String.ofList ('#' :: (digits.map Char.toUpper ++ Color.filling 8 digits))
    | .error _ => ¬ ∃ digits, Color.Spells [8, 6] text digits := by
  have hread := Color.readCode_spec (by decide : 8 % 2 = 0) (by decide : ∀ n ∈ [8, 6], n ≤ 8) text
  rw [← Rgba.map_channels_ofText] at hread
  cases hc : Rgba.ofText text with
  | error e =>
      rw [hc] at hread
      exact hread
  | ok c =>
      rw [hc] at hread
      obtain ⟨hchannels, digits, hdigits, hcode⟩ := hread
      exact ⟨hchannels, digits, hdigits, by rw [Rgba.text, Color.code, hcode]⟩

section Writings

variable {before after written : List Char}

/-- **A color is read of its code in any writing of it**, whatever white space there is around. -/
theorem Rgb.ofText_writing {c : Rgb} (h : c.HasCode)
    (hwhite : ∀ x ∈ before ++ after, isWhitespace x = true)
    (hwritten : written ∈ Color.writings c.text) :
    Rgb.ofText (String.ofList (before ++ (written ++ after))) = .ok c := by
  obtain ⟨digits, hdigits, hcode⟩ :=
    Color.exists_spells h (List.mem_singleton.mpr rfl : 2 * c.channels.length ∈ [6]) hwhite hwritten
  have hspec := Rgb.ofText_spec (String.ofList (before ++ (written ++ after)))
  cases hread : Rgb.ofText (String.ofList (before ++ (written ++ after))) with
  | error e =>
      rw [hread] at hspec
      exact absurd ⟨digits, hdigits⟩ hspec
  | ok c' =>
      rw [hread] at hspec
      obtain ⟨h', digits', hdigits', htext⟩ := hspec
      obtain rfl : digits = digits' := hdigits.bare_eq.symm.trans hdigits'.bare_eq
      rw [hcode] at htext
      -- both have one code, of which only one color is read
      calc Except.ok c' = Rgb.ofText c'.text := (Rgb.ofText_text h').symm
        _ = Rgb.ofText c.text := congrArg Rgb.ofText htext
        _ = .ok c := Rgb.ofText_text h

/-- **A color with an opacity is read of its code in any writing of it.** -/
theorem Rgba.ofText_writing {c : Rgba} (h : c.HasCode)
    (hwhite : ∀ x ∈ before ++ after, isWhitespace x = true)
    (hwritten : written ∈ Color.writings c.text) :
    Rgba.ofText (String.ofList (before ++ (written ++ after))) = .ok c := by
  obtain ⟨digits, hdigits, hcode⟩ :=
    Color.exists_spells h (List.mem_cons_self : 2 * c.channels.length ∈ [8, 6]) hwhite hwritten
  have hspec := Rgba.ofText_spec (String.ofList (before ++ (written ++ after)))
  cases hread : Rgba.ofText (String.ofList (before ++ (written ++ after))) with
  | error e =>
      rw [hread] at hspec
      exact absurd ⟨digits, hdigits⟩ hspec
  | ok c' =>
      rw [hread] at hspec
      obtain ⟨h', digits', hdigits', htext⟩ := hspec
      obtain rfl : digits = digits' := hdigits.bare_eq.symm.trans hdigits'.bare_eq
      have hlength : digits.length = 8 := by
        rw [← List.length_map Char.toUpper, hcode, Color.length_flatMap_channelText h]
        rfl
      rw [hcode, Color.filling_of_length hlength, List.append_nil] at htext
      calc Except.ok c' = Rgba.ofText c'.text := (Rgba.ofText_text h').symm
        _ = Rgba.ofText c.text := congrArg Rgba.ofText htext
        _ = .ok c := Rgba.ofText_text h

end Writings

/-- **The texts that are color codes, and the colors that they are the codes of.**

A color is read of the texts that spell six digits, and of no others.  Its channels lie between
0 and 255, and its code is those digits in capitals after a number sign.  A color with an opacity
is read of eight digits as well, and six stand for one of full opacity.  In return every color
with such channels is read of its code, in capitals or in small letters, with or without the
number sign, and with any white space around. -/
theorem Color.codes_read :
    (∀ text, match Rgb.ofText text with
      | .ok c => c.HasCode ∧ ∃ digits, Color.Spells [6] text digits ∧
          c.text = String.ofList ('#' :: digits.map Char.toUpper)
      | .error _ => ¬ ∃ digits, Color.Spells [6] text digits) ∧
    (∀ text, match Rgba.ofText text with
      | .ok c => c.HasCode ∧ ∃ digits, Color.Spells [8, 6] text digits ∧
          c.text = String.ofList ('#' :: (digits.map Char.toUpper ++
            if digits.length = 6 then ['F', 'F'] else []))
      | .error _ => ¬ ∃ digits, Color.Spells [8, 6] text digits) ∧
    ∀ before after : List Char, (∀ x ∈ before ++ after, isWhitespace x = true) →
      (∀ c : Rgb, c.HasCode → ∀ written ∈ Color.writings c.text,
        Rgb.ofText (String.ofList (before ++ (written ++ after))) = .ok c) ∧
      ∀ c : Rgba, c.HasCode → ∀ written ∈ Color.writings c.text,
        Rgba.ofText (String.ofList (before ++ (written ++ after))) = .ok c := by
  refine ⟨Rgb.ofText_spec, fun text => ?_, fun before after hwhite => ⟨?_, ?_⟩⟩
  · have hspec := Rgba.ofText_spec text
    cases hread : Rgba.ofText text with
    | error e =>
        rw [hread] at hspec
        exact hspec
    | ok c =>
        rw [hread] at hspec
        obtain ⟨hchannels, digits, hdigits, htext⟩ := hspec
        refine ⟨hchannels, digits, hdigits, ?_⟩
        rw [htext]
        have hlength := hdigits.length_mem
        simp only [List.mem_cons, List.not_mem_nil, or_false] at hlength
        rcases hlength with hlength | hlength <;> rw [Color.filling, hlength] <;> rfl
  · exact fun c h written hwritten => Rgb.ofText_writing h hwhite hwritten
  · exact fun c h written hwritten => Rgba.ofText_writing h hwhite hwritten

/-- Small letters without a number sign, between a tab and an em space. -/
theorem Color.codes_read_in_white_space :
    (∀ x ∈ ['\t'] ++ [Char.ofNat 0x2003], isWhitespace x = true) ∧
      Rgb.HasCode ⟨171, 12, 127⟩ ∧ "ab0c7f".toList ∈ Color.writings (Rgb.text ⟨171, 12, 127⟩) ∧
      Rgb.ofText (String.ofList (['\t'] ++ ("ab0c7f".toList ++ [Char.ofNat 0x2003]))) =
        .ok ⟨171, 12, 127⟩ := by
  have hwhite : ∀ x ∈ ['\t'] ++ [Char.ofNat 0x2003], isWhitespace x = true :=
    List.all_eq_true.mp (by decide)
  have hcode : Rgb.HasCode ⟨171, 12, 127⟩ := by decide
  have hwritten : "ab0c7f".toList ∈ Color.writings (Rgb.text ⟨171, 12, 127⟩) := by decide
  exact ⟨hwhite, hcode, hwritten,
    (Color.codes_read.2.2 ['\t'] [Char.ofNat 0x2003] hwhite).1 _ hcode _ hwritten⟩

end TerminalConfig
