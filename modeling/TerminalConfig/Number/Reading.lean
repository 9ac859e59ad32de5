/-
Reading doubles: decimal numerals, hexadecimal numerals, and the names of the values
that are not finite.

Both readers take a whole text or refuse it.  The decimal reader trims white space,
takes digits of any script and rounds to infinity what is too large.  The hexadecimal
reader does none of that: it takes only basic digits and refuses what is too large.  It
does so as soon as the numeral ends, before it looks at what stands after that.
-/
import TerminalConfig.Number.Binary64
import TerminalConfig.Number.Numeral
import TerminalConfig.Text.HexDigit

namespace TerminalConfig

open Text

namespace Numeral

/-- Takes a point and the digits after it. -/
def fraction : List Char → List Nat × List Char
  | '.' :: cs => digitRun cs
  | cs => ([], cs)

/-- Takes a decimal exponent: a mark, a sign and digits.  Without digits nothing is taken. -/
def decimalExponent : List Char → Int × List Char
  | [] => (0, [])
  | c :: cs =>
    if c == 'e' || c == 'E' then
      let (negative, more) := sign cs
      match digitRun more with
      | ([], _) => (0, c :: cs)
      | (ds, rest) => (signed negative (value 10 ds), rest)
    else (0, c :: cs)

/-- A decimal numeral without its sign. -/
def decimal? (negative : Bool) (cs : List Char) : Option Binary64 :=
  let (whole, afterWhole) := digitRun cs
  let (part, afterPart) := fraction afterWhole
  if whole.isEmpty && part.isEmpty then none
  else
    let (e, rest) := decimalExponent afterPart
    if rest.isEmpty then
      some (.ofDecimal negative (value 10 (whole ++ part)) (e - part.length))
    else none

/-- The name of a value that is not finite. -/
def word? (negative : Bool) (cs : List Char) : Option Binary64 :=
  match String.ofList (cs.map Char.toLower) with
  | "inf" => some (.number negative Binary64.infiniteRank)
  | "infinity" => some (.number negative Binary64.infiniteRank)
  | "nan" => some .nan
  | _ => none

/-- Takes hexadecimal digits. -/
def hexRun : List Char → List Nat × List Char
  | [] => ([], [])
  | c :: cs =>
    match hexDigit? c with
    | none => ([], c :: cs)
    | some d =>
      let (ds, rest) := hexRun cs
      (d :: ds, rest)

/-- Takes a point and the hexadecimal digits after it. -/
def hexFraction : List Char → List Nat × List Char
  | '.' :: cs => hexRun cs
  | cs => ([], cs)

/-- Takes a binary exponent: a mark, a sign and basic digits.  A mark without digits is not
part of any numeral. -/
def binaryExponent? : List Char → Option (Int × List Char)
  | [] => some (0, [])
  | c :: cs =>
    if c == 'p' || c == 'P' then
      let (negative, more) := sign cs
      match digitRun (more.takeWhile Char.isDigit) with
      | ([], _) => none
      | (ds, _) => some (signed negative (value 10 ds), more.dropWhile Char.isDigit)
    else some (0, c :: cs)

/-- Takes a hexadecimal numeral after its sign and its mark. -/
def hexadecimal? (negative : Bool) (cs : List Char) : Option (Binary64 × List Char) :=
  let (whole, afterWhole) := hexRun cs
  let (part, afterPart) := hexFraction afterWhole
  if whole.isEmpty && part.isEmpty then none
  else
    (binaryExponent? afterPart).map fun (e, rest) =>
      (.ofBinary negative (value 16 (whole ++ part)) (e - 4 * part.length), rest)

/-- Takes the mark of a hexadecimal numeral. -/
def afterHexMark? : List Char → Option (List Char)
  | '0' :: 'x' :: cs => some cs
  | '0' :: 'X' :: cs => some cs
  | _ => none

/-- Takes a hexadecimal numeral. -/
def takeHexadecimal? (cs : List Char) : Option (Binary64 × List Char) :=
  let (negative, more) := sign cs
  (afterHexMark? more).bind (hexadecimal? negative)

end Numeral

/-- Reads a decimal numeral, or the name of a value that is not finite. -/
def readDecimal (text : String) : Except NumeralError Binary64 :=
  let (negative, cs) := Numeral.sign (trimWith Numeral.isSpace text.toList)
  match (Numeral.decimal? negative cs).orElse fun _ => Numeral.word? negative cs with
  | some x => .ok x
  | none => .error (.notDecimal text)

/-- Reads a hexadecimal numeral. -/
def readHexadecimal (text : String) : Except NumeralError Binary64 :=
  match Numeral.takeHexadecimal? text.toList with
  | none => .error .notHexadecimal
  | some (x, rest) =>
    if x.isInfinite then .error .hexadecimalTooLarge
    else if rest.isEmpty then .ok x
    else .error .notHexadecimal

end TerminalConfig
