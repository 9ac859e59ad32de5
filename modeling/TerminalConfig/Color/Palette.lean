/-
The palette of 256 colors that a terminal derives from a scheme.

The sixteen colors of the scheme come first, then a cube of six levels for each channel,
then a ramp of grays.  The ramp has one entry more than the palette needs.
-/
import TerminalConfig.Color.Basic

namespace TerminalConfig

namespace Palette

/-- A channel of the cube at one of its six levels. -/
def cubeChannel (level : Nat) : Int :=
  (level % 6 * 255 / 5 : Nat)

/-- The entry of the cube with a given number; blue changes fastest. -/
def cubeColor (n : Nat) : Rgb :=
  ⟨cubeChannel (n / 36), cubeChannel (n / 6), cubeChannel n⟩

/-- The gray of the ramp with a given number. -/
def gray (n : Nat) : Rgb :=
  let level : Int := ((n * 10 + 8) * 255 / 256 : Nat)
  ⟨level, level, level⟩

/-- The palette of a scheme; there is none for fewer than sixteen colors. -/
def ofColors? (colors : List Rgb) : Option (List Rgb) :=
  if colors.length < 16 then none
  else some (colors.take 16 ++ (List.range 216).map cubeColor ++ (List.range 25).map gray)

end Palette

end TerminalConfig
