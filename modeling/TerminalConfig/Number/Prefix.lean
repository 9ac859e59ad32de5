/-
The numeral that a text begins with.

An operand of a condition is a number if its text begins with one, and what follows does
not count.  The numeral is hexadecimal with a binary exponent, decimal with a decimal
exponent, or a name; letters may be in either case, and a decimal digit may be of any
script.  An exponent belongs to it only if it has digits, and a name is taken in its
longer form if that is there.

Letters are compared by case folding, under which the dotted capital and the dotless
small I are an `i` too.  So a text can begin with what looks like a name and still not
be one, and reading it then fails.
-/
import TerminalConfig.Number.Reading

namespace TerminalConfig

open Text

/-- The notation of a numeral. -/
inductive NumeralForm
  | hexadecimal
  | decimal
  /-- Infinity, or not a number. -/
  | word
deriving DecidableEq, Repr

/-- A numeral as it is written. -/
structure Numeral where
  form : NumeralForm
  text : List Char
deriving DecidableEq, Repr

namespace Numeral

/-- Whether `c` is the letter `letter` in either case. -/
def isLetter (letter c : Char) : Bool :=
  c.toLower == letter || (letter == 'i' && (c.toNat == 0x130 || c.toNat == 0x131))

/-- The text `cs` begins with, if it spells the word, and what follows. -/
def spelled? : List Char → List Char → Option (List Char × List Char)
  | [], cs => some ([], cs)
  | _ :: _, [] => none
  | letter :: word, c :: cs =>
    if isLetter letter c then
      (spelled? word cs).map fun (written, rest) => (c :: written, rest)
    else none

/-- A sign as it is written. -/
def writtenSign : List Char → List Char × List Char
  | [] => ([], [])
  | c :: cs => if c == '+' || c == '-' then ([c], cs) else ([], c :: cs)

/-- An exponent as it is written, with its mark. -/
def writtenExponent (mark : Char) : List Char → List Char
  | [] => []
  | c :: cs =>
    if isLetter mark c then
      let (sign, more) := writtenSign cs
      match more.takeWhile isDecimalDigit with
      | [] => []
      | digits => c :: (sign ++ digits)
    else []

/-- Digits of a class with at most one point, as they are written.  There is at least
one digit. -/
def writtenDigits (isDigit : Char → Bool) (cs : List Char) : List Char × List Char :=
  let whole := cs.takeWhile isDigit
  match cs.dropWhile isDigit with
  | '.' :: more =>
    let part := more.takeWhile isDigit
    if whole.isEmpty && part.isEmpty then ([], cs)
    else (whole ++ '.' :: part, more.dropWhile isDigit)
  | rest => (whole, rest)

/-- Whether a character is a hexadecimal digit. -/
def isHexDigit (c : Char) : Bool :=
  (hexDigit? c).isSome

/-- A hexadecimal numeral without its sign. -/
def writtenHexadecimal? : List Char → Option (List Char)
  | '0' :: x :: cs =>
    if isLetter 'x' x then
      match writtenDigits isHexDigit cs with
      | ([], _) => none
      | (digits, rest) => some ('0' :: x :: (digits ++ writtenExponent 'p' rest))
    else none
  | _ => none

/-- A decimal numeral without its sign. -/
def writtenDecimal? (cs : List Char) : Option (List Char) :=
  match writtenDigits isDecimalDigit cs with
  | ([], _) => none
  | (digits, rest) => some (digits ++ writtenExponent 'e' rest)

/-- The name of a value without its sign. -/
def writtenWord? (cs : List Char) : Option (List Char) :=
  match spelled? ['i', 'n', 'f'] cs with
  | some (short, rest) =>
    match spelled? ['i', 'n', 'i', 't', 'y'] rest with
    | some (more, _) => some (short ++ more)
    | none => some short
  | none => (spelled? ['n', 'a', 'n'] cs).map (·.1)

/-- The numeral that a text begins with. -/
def leading? (cs : List Char) : Option Numeral :=
  let (sign, more) := writtenSign cs
  match writtenHexadecimal? more with
  | some text => some ⟨.hexadecimal, sign ++ text⟩
  | none =>
    match writtenDecimal? more with
    | some text => some ⟨.decimal, sign ++ text⟩
    | none => (writtenWord? more).map fun text => ⟨.word, sign ++ text⟩

/-- The number that a numeral stands for. -/
def read (n : Numeral) : Except NumeralError Binary64 :=
  match n.form with
  | .hexadecimal => readHexadecimal (String.ofList n.text)
  | .decimal => readDecimal (String.ofList n.text)
  | .word => readDecimal (String.ofList n.text)

/-- The number that a text begins with, zero if it begins with none. -/
def readLeading (text : String) : Except NumeralError Binary64 :=
  match leading? text.toList with
  | none => .ok .zero
  | some n => n.read

end Numeral

end TerminalConfig
