/-
Entries that are accepted.

An entry with a known key and a value that suits it changes the setting and is not
complained of.  There are three ways in: a bare flag, a single value, and a list of fonts.
-/
import TerminalConfig.Proofs.Settings.Held
import TerminalConfig.Proofs.Lexer.Line
import TerminalConfig.Proofs.Number.Decimal
import TerminalConfig.Proofs.Color.Code

namespace TerminalConfig

open Text

namespace Key

/-- The key takes one value. -/
structure IsSingle (key : Key) : Prop where
  notFlag : key.isFlag = false
  notFile : key ≠ .configFile
  notFont : key ≠ .font

theorem mem_all (key : Key) : key ∈ all := by
  cases key with
  | color index => revert index; decide +kernel
  | _ => decide +kernel

theorem all_nodup : all.Nodup := by
  decide +kernel

/-- A key is known by its name. -/
theorem named?_name (key : Key) : named? key.name = some key := by
  have hall : ∀ key ∈ all, named? key.name = some key := by decide +kernel
  exact hall key key.mem_all

theorem name_ne_empty (key : Key) : key.name ≠ "" := by
  have hall : ∀ key ∈ all, key.name ≠ "" := by decide +kernel
  exact hall key key.mem_all

/-- The name of a key may stand before an equals sign. -/
theorem isKeyChar_name (key : Key) : ∀ c ∈ key.name.toList, Scanner.isKeyChar c = true := by
  have hall : ∀ key ∈ all, key.name.toList.all Scanner.isKeyChar = true := by decide +kernel
  exact List.all_eq_true.mp (hall key key.mem_all)

end Key

/-! ### Values -/

/-- A number that is not too long is read of its digits. -/
theorem readNumber_toString {minimum : Nat} {n : Int}
    (hdigits : (toString n).length ≤ Numeral.digitLimit) (hminimum : minimum ≤ n) :
    readNumber minimum (toString n) = .ok n := by
  have hnonneg : 0 ≤ n := Int.le_trans (Int.natCast_nonneg minimum) hminimum
  obtain ⟨m, rfl⟩ := Int.eq_ofNat_of_zero_le hnonneg
  have hread : readInteger (toString (m : Int)) = .ok (m : Int) := readInteger_toString hdigits
  rw [readNumber, trimmed_toString hnonneg, hread]
  exact if_neg (Int.not_lt.mpr hminimum)

/-- A number that is not larger than the maximum is not changed. -/
theorem readClamped_toString {maximum : Nat} {n : Int} (hnonneg : 0 ≤ n)
    (hdigits : (toString n).length ≤ Numeral.digitLimit) (hmaximum : n ≤ maximum) :
    readClamped maximum (toString n) = .ok n := by
  rw [readClamped, readNumber_toString hdigits hnonneg]
  exact congrArg Except.ok (Int.min_eq_left hmaximum)

/-- The place of a built-in scheme is not one of its names. -/
theorem readScheme_toString {n : Int} (hnonneg : 0 ≤ n) (hmaximum : n ≤ 7) :
    readScheme (toString n) = .ok n := by
  have hall : ∀ n : Fin 8,
      Colorscheme.indexOf? (lowered (trimmed (toString (n.val : Int)))) = none := by
    decide +kernel
  have hdigits := length_toString_le hnonneg (by omega)
  obtain ⟨m, rfl⟩ := Int.eq_ofNat_of_zero_le hnonneg
  have hname : Colorscheme.indexOf? (lowered (trimmed (toString (m : Int)))) = none :=
    hall ⟨m, by omega⟩
  rw [readScheme, hname]
  exact readClamped_toString hnonneg hdigits hmaximum

theorem readRgb_text {color : Rgb} (h : color.HasCode) : readRgb color.text = .ok color := by
  rw [readRgb, Rgb.ofText_text h]
  rfl

theorem readRgba_text {color : Rgba} (h : color.HasCode) : readRgba color.text = .ok color := by
  rw [readRgba, Rgba.ofText_text h]
  rfl

/-- No font is left out, and none is trimmed. -/
theorem readFonts_self {fonts : List String} (hne : fonts ≠ [])
    (hfonts : ∀ font ∈ fonts, font ≠ "" ∧ trimmed font = font) : readFonts fonts = .ok fonts := by
  have htrim : fonts.map trimmed = fonts := by
    rw [List.map_congr_left fun font hfont => (hfonts font hfont).2, List.map_id']
  have hfilter : fonts.filter (· != "") = fonts :=
    List.filter_eq_self.mpr fun font hfont => by simpa using (hfonts font hfont).1
  unfold readFonts
  rw [htrim, hfilter]
  cases fonts with
  | nil => exact absurd rfl hne
  | cons => rfl

namespace Settings

/-! ### Entries -/

theorem enter_flag {key : Key} (hflag : key.isFlag = true) (s : Settings) :
    s.enter key.name none = (s.setFlag key, []) := by
  rw [enter, Key.named?_name]
  simp [hflag, readFlag]

/-- A single value that suits its setting. -/
theorem enter_single {s t : Settings} {key : Key} {value text : String} (hkey : key.IsSingle)
    (hexpand : ListValue.expand value = { first := text })
    (hset : s.setScalar key text = .ok t) : s.enter key.name (some value) = (t, []) := by
  rw [enter, Key.named?_name]
  simp [hkey.notFlag, setValue, hkey.notFile, hkey.notFont, hexpand, hset, orComplaint]

/-- Fonts whose value has nothing odd about it. -/
theorem enter_fonts {s : Settings} {value : String} {fonts : List String}
    (helements : (ListValue.expand value).elements = fonts)
    (hproblems : (ListValue.expand value).problems = [])
    (hfonts : readFonts fonts = .ok fonts) :
    s.enter Key.font.name (some value) = ({ s with fonts := fonts }, []) := by
  rw [enter, Key.named?_name]
  simp [Key.isFlag, setValue, helements, hproblems, hfonts, Except.map, orComplaint]

end Settings

end TerminalConfig
