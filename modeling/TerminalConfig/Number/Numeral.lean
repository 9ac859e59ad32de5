/-
The parts that numerals are made of.

A numeral may use the decimal digits of any script, and may set single underscores
between them.  The white space around a numeral is that of the basic alphabet together
with all white space beyond it; the information separators do not count.
-/
import TerminalConfig.Text.Whitespace
import TerminalConfig.Text.DecimalDigit
import TerminalConfig.Text.Quoted

namespace TerminalConfig

open Text

/-- Why a text is no numeral, a numeral no number, or an integer is not written. -/
inductive NumeralError
  /-- The text is not an integer. -/
  | notInteger (text : String)
  /-- An integer of so many digits is not read. -/
  | tooManyDigits (count : Nat)
  /-- An integer of too many digits is not written. -/
  | tooLongToWrite
  /-- The text is not a decimal number. -/
  | notDecimal (text : String)
  /-- The text is not a hexadecimal number. -/
  | notHexadecimal
  /-- The hexadecimal number is larger than any double. -/
  | hexadecimalTooLarge
deriving DecidableEq, Repr

namespace Numeral

/-- The most digits that an integer may have to be read or written. -/
def digitLimit : Nat := 4300

/-- How much of a quoted text the message about an integer shows. -/
def quoteLimit : Nat := 200

/-- White space around a numeral. -/
def isSpace (c : Char) : Bool :=
  if c.toNat < 0x80 then c == ' ' || (0x9 ≤ c.toNat && c.toNat ≤ 0xD) else isWhitespace c

/-- Takes a sign, and says whether it is a minus. -/
def sign : List Char → Bool × List Char
  | '+' :: cs => (false, cs)
  | '-' :: cs => (true, cs)
  | cs => (false, cs)

/-- Takes digits with single underscores between them. -/
def digitRun : List Char → List Nat × List Char
  | [] => ([], [])
  | c :: '_' :: cs =>
    match decimalDigit? c with
    | none => ([], c :: '_' :: cs)
    | some d =>
      match digitRun cs with
      | ([], _) => ([d], '_' :: cs)
      | (ds, rest) => (d :: ds, rest)
  | c :: cs =>
    match decimalDigit? c with
    | none => ([], c :: cs)
    | some d =>
      let (ds, rest) := digitRun cs
      (d :: ds, rest)

/-- The number that digits of a base stand for. -/
def value (base : Nat) (digits : List Nat) : Nat :=
  digits.foldl (fun n d => n * base + d) 0

/-- A number with the sign that stood before it. -/
def signed (negative : Bool) (n : Nat) : Int :=
  if negative then -(n : Int) else n

end Numeral

/-- What the user is told. -/
def NumeralError.message : NumeralError → String
  | .notInteger text =>
    "invalid literal for int() with base 10: " ++
      String.ofList ((quote text.toList).take Numeral.quoteLimit)
  | .tooManyDigits count =>
    "Exceeds the limit (" ++ toString Numeral.digitLimit ++
      " digits) for integer string conversion: value has " ++ toString count ++
      " digits; use sys.set_int_max_str_digits() to increase the limit"
  | .tooLongToWrite =>
    "Exceeds the limit (" ++ toString Numeral.digitLimit ++
      " digits) for integer string conversion; use sys.set_int_max_str_digits() to increase " ++
      "the limit"
  | .notDecimal text => "could not convert string to float: " ++ quoted text
  | .notHexadecimal => "invalid hexadecimal floating-point string"
  | .hexadecimalTooLarge => "hexadecimal value too large to represent as a float"

/-- Reads an integer.  Too many digits are noticed as soon as the digits are read,
before what stands after them. -/
def readInteger (text : String) : Except NumeralError Int :=
  let (negative, cs) := Numeral.sign (trimWith Numeral.isSpace text.toList)
  let (digits, rest) := Numeral.digitRun cs
  if digits.isEmpty || rest.head? == some '_' then .error (.notInteger text)
  else if Numeral.digitLimit < digits.length then .error (.tooManyDigits digits.length)
  else if rest.isEmpty then .ok (Numeral.signed negative (Numeral.value 10 digits))
  else .error (.notInteger text)

/-- Writes an integer, unless it has too many digits.  Its sign does not count. -/
def writeInteger (n : Int) : Except NumeralError String :=
  if Numeral.digitLimit < (toString n.natAbs).length then .error .tooLongToWrite
  else .ok (toString n)

end TerminalConfig
