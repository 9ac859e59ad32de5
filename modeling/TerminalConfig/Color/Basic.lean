/-
Colors and their hexadecimal codes.

A code is six digits, or eight where the last two are the opacity, after an optional
number sign and with white space around it allowed.  A color without opacity in its code
is opaque.

Channels that come from a code lie between 0 and 255.  A host may set others, and they
are written as they are: a sign counts as a digit, and a large channel takes more than
two.
-/
import TerminalConfig.Text.HexDigit
import TerminalConfig.Text.Quoted
import TerminalConfig.Text.Whitespace

namespace TerminalConfig

open Text

/-- A color. -/
structure Rgb where
  red : Int
  green : Int
  blue : Int
deriving DecidableEq, Repr

/-- A color with an opacity. -/
structure Rgba where
  red : Int
  green : Int
  blue : Int
  alpha : Int := 255
deriving DecidableEq, Repr

/-- Why a text is no color code. -/
inductive ColorError
  /-- The code has none of the lengths that are allowed. -/
  | wrongLength (allowed : List Nat) (text : String)
  | notHexDigit (c : Char)
deriving DecidableEq, Repr

/-- What the user is told. -/
def ColorError.message : ColorError → String
  | .wrongLength allowed text =>
    "expected " ++ String.intercalate " or " (allowed.map toString) ++ " hex digits, got " ++
      quoted text
  | .notHexDigit c => "'" ++ String.singleton c ++ "' is not a hex digit"

namespace Color

/-- A code without the white space around it and without its number sign. -/
def bare (cs : List Char) : List Char :=
  match trim cs with
  | '#' :: digits => digits
  | digits => digits

/-- The value of a hexadecimal digit. -/
def digit (c : Char) : Except ColorError Nat :=
  match hexDigit? c with
  | some d => .ok d
  | none => .error (.notHexDigit c)

/-- The channel of two digits. -/
def channel (high low : Char) : Except ColorError Int := do
  let h ← digit high
  let l ← digit low
  return (h * 16 + l : Nat)

/-- A channel in two hexadecimal digits, or in more if need be. -/
def channelText (n : Int) : List Char :=
  (if n < 0 then '-' :: hexCode 1 n.natAbs else hexCode 2 n.natAbs).map Char.toUpper

/-- The code of channels. -/
def code (channels : List Int) : String :=
  String.ofList ('#' :: channels.flatMap channelText)

end Color

namespace Rgb

/-- The color of a 24-bit code. -/
def ofCode (n : Nat) : Rgb :=
  ⟨(n / 65536 % 256 : Nat), (n / 256 % 256 : Nat), (n % 256 : Nat)⟩

def channels (c : Rgb) : List Int :=
  [c.red, c.green, c.blue]

/-- Reads a code of six digits. -/
def ofText (text : String) : Except ColorError Rgb :=
  match Color.bare text.toList with
  | [r, r', g, g', b, b'] => do
    return ⟨← Color.channel r r', ← Color.channel g g', ← Color.channel b b'⟩
  | _ => .error (.wrongLength [6] text)

/-- The code of a color. -/
def text (c : Rgb) : String :=
  Color.code c.channels

/-- The color with an opacity. -/
def withAlpha (c : Rgb) (alpha : Int) : Rgba :=
  ⟨c.red, c.green, c.blue, alpha⟩

end Rgb

namespace Rgba

/-- The color of a 32-bit code. -/
def ofCode (n : Nat) : Rgba :=
  (Rgb.ofCode (n / 256)).withAlpha (n % 256 : Nat)

def channels (c : Rgba) : List Int :=
  [c.red, c.green, c.blue, c.alpha]

/-- Reads a code of eight digits, or of six for an opaque color. -/
def ofText (text : String) : Except ColorError Rgba :=
  match Color.bare text.toList with
  | [r, r', g, g', b, b', a, a'] => do
    return ⟨← Color.channel r r', ← Color.channel g g', ← Color.channel b b',
      ← Color.channel a a'⟩
  | [r, r', g, g', b, b'] => do
    return { red := ← Color.channel r r', green := ← Color.channel g g',
             blue := ← Color.channel b b' }
  | _ => .error (.wrongLength [8, 6] text)

/-- The code of a color. -/
def text (c : Rgba) : String :=
  Color.code c.channels

/-- The color without its opacity. -/
def opaqueColor (c : Rgba) : Rgb :=
  ⟨c.red, c.green, c.blue⟩

end Rgba

end TerminalConfig
