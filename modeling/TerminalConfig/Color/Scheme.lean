/-
The built-in colorschemes.

A scheme has sixteen colors, eight normal ones and their bright counterparts, and a
background and a foreground.  Schemes are chosen by their place in the list or by their
name; a place outside the list stands for the first scheme.
-/
import TerminalConfig.Color.Basic
import TerminalConfig.Text.Lowercase

namespace TerminalConfig

/-- A colorscheme. -/
structure Colorscheme where
  name : String
  colors : List Rgb
  background : Rgba
  foreground : Rgb
deriving DecidableEq, Repr

namespace Colorscheme

/-- A scheme given by codes; the background has an opacity. -/
def preset (name : String) (colors : List Nat) (background foreground : Nat) : Colorscheme :=
  ⟨name, colors.map Rgb.ofCode, Rgba.ofCode background, Rgb.ofCode foreground⟩

/-- The scheme that is used unless another is chosen. -/
def wayst : Colorscheme :=
  preset "wayst"
    [0x000000, 0xAB1F00, 0xD2FF00, 0xFF7D00, 0x00518C, 0xB7006F, 0x00AEA0, 0xAAAAAA,
     0x545454, 0xBB3939, 0xAFFF52, 0xFFA855, 0x107BC9, 0xFF368A, 0x40FFEF, 0xFFFFFF]
    0x000000EE 0xFFFFFF

/-- The built-in schemes. -/
def presets : List Colorscheme :=
  [wayst,
    preset "linux"
      [0x000000, 0xAA0000, 0x00AA00, 0xAA5500, 0x0000AA, 0xAA00AA, 0x00AAAA, 0xAAAAAA,
       0x555555, 0xFF5555, 0x55FF55, 0xFFFF55, 0x5555FF, 0xFF55FF, 0x55FFFF, 0xFFFFFF]
      0x000000FF 0xFFFFFF,
    preset "xterm"
      [0x000000, 0xCD0000, 0x00CD00, 0xCDCD00, 0x0000EE, 0xCD00CD, 0x00CDCD, 0xE5E5E5,
       0x7F7F7F, 0xFF0000, 0x00FF00, 0xFFFF00, 0x5C5CFF, 0xFF00FF, 0x00FFFF, 0xFFFFFF]
      0x000000FF 0xFFFFFF,
    preset "rxvt"
      [0x000000, 0xCD0000, 0x00CD00, 0xCDCD00, 0x0000CD, 0xCD00CD, 0x00CDCD, 0xFAEBD7,
       0x404040, 0xFF0000, 0x00FF00, 0xFFFF00, 0x0000FF, 0xFF00FF, 0x00FFFF, 0xFFFFFF]
      0x000000FF 0xFFFFFF,
    preset "yaru"
      [0x2E3436, 0xCC0000, 0x4E9A06, 0xC4A000, 0x3465A4, 0x75507B, 0x06989A, 0xD3D7CF,
       0x555753, 0xEF2929, 0x8AE234, 0xFCE94F, 0x729FCF, 0xAD7FA8, 0x34E2E2, 0xEEEEEC]
      0x300A24FF 0xFFFFFF,
    preset "tango"
      [0x000000, 0xCC0000, 0x4D9A05, 0xC3A000, 0x3464A3, 0x754F7B, 0x05979A, 0xD3D6CF,
       0x545652, 0xEF2828, 0x89E234, 0xFBE84F, 0x729ECF, 0xAC7EA8, 0x34E2E2, 0xEDEDEB]
      0x2D2D2DFF 0xEEEEEC,
    preset "orchis"
      [0x000000, 0xCC0000, 0x4D9A05, 0xC3A000, 0x3464A3, 0x754F7B, 0x05979A, 0xD3D6CF,
       0x545652, 0xEF2828, 0x89E234, 0xFBE84F, 0x729ECF, 0xAC7EA8, 0x34E2E2, 0xEDEDEB]
      0x303030FF 0xEFEFEF,
    preset "solarized"
      [0x073642, 0xDC322F, 0x859900, 0xB58900, 0x268BD2, 0xD33682, 0x2AA198, 0xEEE8D5,
       0x002B36, 0xCB4B16, 0x586E75, 0x657B83, 0x839496, 0x6C71C4, 0x93A1A1, 0xFDF6E3]
      0x002B36FF 0x839496]

/-- The names of the built-in schemes. -/
def names : List String :=
  presets.map (·.name)

/-- The place of the scheme with exactly this name. -/
def indexOf? (name : String) : Option Nat :=
  names.idxOf? name

/-- The scheme at a place, the first for a place outside the list. -/
def atIndex (index : Int) : Colorscheme :=
  if index < 0 then wayst else presets.getD index.toNat wayst

/-- The scheme with a name, in any case. -/
def named? (name : String) : Option Colorscheme :=
  presets.find? (·.name == Text.lowered name)

end Colorscheme

end TerminalConfig
