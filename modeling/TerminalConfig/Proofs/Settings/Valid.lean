/-
Settings that a terminal can use.

What is read of a value lies within the bounds of its setting, whatever the value: a number
is at least 1, or is clamped, the channels of a color are octets, and a font has a name with
no white space around it.  So an entry that changes a setting leaves it within its bounds,
and since the settings are within their bounds at the start they always are.

A palette can be made of such settings: their scheme is one of the built-in ones, with
sixteen colors, and replacing some of them by others does not change how many there are.
-/
import TerminalConfig.Color.Palette
import TerminalConfig.Proofs.Color.Code
import TerminalConfig.Proofs.Settings.Entering

namespace TerminalConfig

open Text
open Settings (of_map_eq_ok)

/-! ### Values -/

theorem le_of_readNumber {minimum : Nat} {text : String} {n : Int}
    (h : readNumber minimum text = .ok n) : minimum ≤ n := by
  unfold readNumber at h
  split at h
  · cases h
  · split at h
    · cases h
    · rename_i hminimum
      cases h
      exact Int.not_lt.mp hminimum

theorem bounds_of_readClamped {maximum : Nat} {text : String} {n : Int}
    (h : readClamped maximum text = .ok n) : 0 ≤ n ∧ n ≤ maximum := by
  obtain ⟨m, hm, rfl⟩ := of_map_eq_ok h
  have hnonneg := le_of_readNumber hm
  exact ⟨by omega, by omega⟩

theorem Colorscheme.lt_of_indexOf? {name : String} {index : Nat}
    (h : indexOf? name = some index) : index < presets.length := by
  obtain ⟨hlt, -⟩ := List.findIdx?_eq_some_iff_getElem.mp h
  rwa [names, List.length_map] at hlt

/-- A scheme is chosen among the built-in ones, by its name or by its place. -/
theorem bounds_of_readScheme {text : String} {n : Int} (h : readScheme text = .ok n) :
    0 ≤ n ∧ n < Colorscheme.presets.length := by
  have hlength : Colorscheme.presets.length = 8 := rfl
  unfold readScheme at h
  split at h
  · rename_i index hindex
    obtain rfl := Except.ok.inj h
    have hlt := Colorscheme.lt_of_indexOf? hindex
    exact ⟨by omega, by omega⟩
  · have hbounds := bounds_of_readClamped h
    omega

theorem of_mapError_eq_ok {ε ε' α : Type} {x : Except ε α} {f : ε → ε'} {a : α}
    (h : x.mapError f = .ok a) : x = .ok a := by
  cases x with
  | error e => cases h
  | ok b => exact congrArg Except.ok (Except.ok.inj h)

theorem hasCode_of_readRgb {text : String} {color : Rgb} (h : readRgb text = .ok color) :
    color.HasCode :=
  Rgb.hasCode_of_ofText (of_mapError_eq_ok h)

theorem hasCode_of_readRgba {text : String} {color : Rgba} (h : readRgba text = .ok color) :
    color.HasCode :=
  Rgba.hasCode_of_ofText (of_mapError_eq_ok h)

theorem fonts_of_readFonts {elements fonts : List String} (h : readFonts elements = .ok fonts) :
    fonts ≠ [] ∧ ∀ font ∈ fonts, font ≠ "" ∧ trimmed font = font := by
  unfold readFonts at h
  split at h
  · cases h
  · rename_i hne
    obtain rfl := Except.ok.inj h
    refine ⟨hne, fun font hfont => ?_⟩
    obtain ⟨hmem, hfull⟩ := List.mem_filter.mp hfont
    obtain ⟨element, -, rfl⟩ := List.mem_map.mp hmem
    exact ⟨by simpa using hfull, trimmed_trimmed element⟩

/-! ### Settings -/

namespace Settings

/-- All settings are within their bounds. -/
structure Valid (s : Settings) : Prop where
  rows : 1 ≤ s.rows
  columns : 1 ≤ s.columns
  fontSize : 1 ≤ s.fontSize
  dpi : 1 ≤ s.dpi
  scrollLines : 0 ≤ s.scrollLines ∧ s.scrollLines ≤ 255
  schemeIndex : 0 ≤ s.schemeIndex ∧ s.schemeIndex < Colorscheme.presets.length
  hasFont : s.fonts ≠ []
  fonts : ∀ font ∈ s.fonts, font ≠ "" ∧ trimmed font = font
  background : ∀ color ∈ s.background, color.HasCode
  foreground : ∀ color ∈ s.foreground, color.HasCode
  highlightBackground : s.highlightBackground.HasCode
  highlightForeground : s.highlightForeground.HasCode
  dimForeground : s.dimForeground.HasCode
  overrides : ∀ e ∈ s.overrides.entries, (0 ≤ e.1 ∧ e.1 < 16) ∧ e.2.HasCode

variable {s t : Settings}

theorem valid_default : ({} : Settings).Valid where
  rows := by decide
  columns := by decide
  fontSize := by decide
  dpi := by decide
  scrollLines := by decide
  schemeIndex := by decide
  hasFont := by decide
  fonts := by decide +kernel
  background := by simp
  foreground := by simp
  highlightBackground := by decide
  highlightForeground := by decide
  dimForeground := by decide
  overrides := by simp [Overrides.empty]

theorem Valid.setFlag (h : s.Valid) (key : Key) : (s.setFlag key).Valid := by
  cases key <;> exact { h with }

/-- A single value is within the bounds of its setting, and no other setting changes. -/
theorem Valid.setScalar (h : s.Valid) {key : Key} {text : String}
    (hset : s.setScalar key text = .ok t) : t.Valid := by
  cases key <;> unfold Settings.setScalar at hset
  case rows =>
    obtain ⟨n, hn, rfl⟩ := of_map_eq_ok hset
    exact { h with rows := le_of_readNumber hn }
  case columns =>
    obtain ⟨n, hn, rfl⟩ := of_map_eq_ok hset
    exact { h with columns := le_of_readNumber hn }
  case fontSize =>
    obtain ⟨n, hn, rfl⟩ := of_map_eq_ok hset
    exact { h with fontSize := le_of_readNumber hn }
  case dpi =>
    obtain ⟨n, hn, rfl⟩ := of_map_eq_ok hset
    exact { h with dpi := le_of_readNumber hn }
  case scrollLines =>
    obtain ⟨n, hn, rfl⟩ := of_map_eq_ok hset
    exact { h with scrollLines := bounds_of_readClamped hn }
  case colorscheme =>
    obtain ⟨n, hn, rfl⟩ := of_map_eq_ok hset
    exact { h with schemeIndex := bounds_of_readScheme hn }
  case background =>
    obtain ⟨color, hcolor, rfl⟩ := of_map_eq_ok hset
    exact { h with background := by simpa using hasCode_of_readRgba hcolor }
  case foreground =>
    obtain ⟨color, hcolor, rfl⟩ := of_map_eq_ok hset
    exact { h with foreground := by simpa using hasCode_of_readRgb hcolor }
  case highlightBackground =>
    obtain ⟨color, hcolor, rfl⟩ := of_map_eq_ok hset
    exact { h with highlightBackground := hasCode_of_readRgba hcolor }
  case highlightForeground =>
    obtain ⟨color, hcolor, rfl⟩ := of_map_eq_ok hset
    exact { h with highlightForeground := hasCode_of_readRgb hcolor }
  case dimForeground =>
    obtain ⟨color, hcolor, rfl⟩ := of_map_eq_ok hset
    exact { h with dimForeground := hasCode_of_readRgb hcolor }
  case color index =>
    obtain ⟨color, hcolor, rfl⟩ := of_map_eq_ok hset
    refine { h with overrides := fun e he => ?_ }
    obtain rfl | hold := Overrides.mem_put he
    · exact ⟨⟨Int.natCast_nonneg index.val, Int.ofNat_lt.mpr index.isLt⟩,
        hasCode_of_readRgb hcolor⟩
    · exact h.overrides e hold
  -- a text has no bounds, and what takes no single value is not changed by one
  all_goals
    obtain rfl := Except.ok.inj hset
    exact { h with }

/-- **Every entry keeps the settings within their bounds.** -/
theorem Valid.enters (h : s.Valid) (henters : s.Enters t) : t.Valid := by
  cases henters with
  | same => exact h
  | flag key => exact h.setFlag key
  | single hset => exact h.setScalar hset
  | fonts hfonts =>
      obtain ⟨hne, heach⟩ := fonts_of_readFonts hfonts
      exact { h with hasFont := hne, fonts := heach }

end Settings

/-! ### Schemes and palettes -/

theorem Colorscheme.length_colors : ∀ scheme ∈ presets, scheme.colors.length = 16 := by
  decide

/-- No place among the built-in schemes stands for another. -/
theorem Colorscheme.getElem?_presets {index : Int} (h : 0 ≤ index ∧ index < presets.length) :
    presets[index.toNat]? = some (atIndex index) := by
  obtain ⟨hlow, hhigh⟩ := h
  have hlt : index.toNat < presets.length := by omega
  rw [atIndex, if_neg (Int.not_lt.mpr hlow), List.getD_eq_getElem?_getD,
    List.getElem?_eq_getElem hlt, Option.getD_some]

/-- A color of the scheme is the one that replaces it, or else it is not replaced. -/
theorem Settings.getElem?_scheme (s : Settings) {index : Nat}
    (h : index < (Colorscheme.atIndex s.schemeIndex).colors.length) :
    s.scheme.colors[index]? =
      (s.overrides.find? index).or (Colorscheme.atIndex s.schemeIndex).colors[index]? := by
  rw [scheme, List.getElem?_mapIdx, List.getElem?_eq_getElem h]
  cases hfind : s.overrides.find? index <;> simp [colorAt, hfind]

theorem Palette.ofColors?_of_length {colors : List Rgb} (h : colors.length = 16) :
    ∃ palette, ofColors? colors = some palette ∧ palette.length = 257 ∧
      palette.take 16 = colors := by
  refine ⟨_, if_neg (by omega), ?_, ?_⟩
  · simp [h]
  · rw [List.take_of_length_le (Nat.le_of_eq h), List.append_assoc, List.take_left' h]

/-- **Whatever is applied and loaded, the settings are within their bounds.**  No call fails, for
what is wrong with an entry or with a text is a complaint.  The scheme of the settings is a
built-in one with sixteen colors, each replaced or not, and there is a palette of it. -/
theorem Loader.calls_valid (calls : List Call) :
    let s := (calls.foldl Loader.call {}).settings
    s.Valid ∧
    (∃ preset, Colorscheme.presets[s.schemeIndex.toNat]? = some preset ∧
      s.scheme.colors.length = 16 ∧
      ∀ index : Nat, index < 16 →
        s.scheme.colors[index]? = (s.overrides.find? index).or preset.colors[index]?) ∧
    ∃ palette, Palette.ofColors? s.scheme.colors = some palette ∧ palette.length = 257 ∧
      palette.take 16 = s.scheme.colors := by
  intro s
  have hvalid : s.Valid :=
    Loader.calls_keep (fun _ _ henters h => h.enters henters) {} calls Settings.valid_default
  have hpreset := Colorscheme.getElem?_presets hvalid.schemeIndex
  have hbase := Colorscheme.length_colors _ (List.mem_of_getElem? hpreset)
  have hlength : s.scheme.colors.length = 16 := List.length_mapIdx.trans hbase
  refine ⟨hvalid, ⟨_, hpreset, hlength, fun index hindex => ?_⟩,
    Palette.ofColors?_of_length hlength⟩
  exact s.getElem?_scheme (by rwa [hbase])

end TerminalConfig
