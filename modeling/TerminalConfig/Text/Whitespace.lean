/-
White space in the wide sense: what is trimmed from names, colors and keywords.

It is wider than the blanks of the configuration language, and it has the four
information separators, which the white space around a numeral does not have.
-/
import TerminalConfig.Text.Blank
import TerminalConfig.Text.Ranges
import TerminalConfig.Text.Split

namespace TerminalConfig.Text

/-- The white space characters. -/
def whitespaceRanges : List (Nat × Nat) :=
  [(0x9, 0xD), (0x1C, 0x20), (0x85, 0x85), (0xA0, 0xA0), (0x1680, 0x1680), (0x2000, 0x200A),
   (0x2028, 0x2029), (0x202F, 0x202F), (0x205F, 0x205F), (0x3000, 0x3000)]

/-- A white space character. -/
def isWhitespace (c : Char) : Bool :=
  inRanges c.toNat whitespaceRanges

/-- `cs` without the white space around it. -/
def trim (cs : List Char) : List Char :=
  trimWith isWhitespace cs

/-- A text without the white space around it. -/
def trimmed (text : String) : String :=
  String.ofList (trim text.toList)

/-- The parts of a text between white space. -/
def words (cs : List Char) : List (List Char) :=
  (splitWhere isWhitespace cs).filter (· != [])

end TerminalConfig.Text
