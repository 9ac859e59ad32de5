/-
Entries as a YAML document.

A text is written as it is if it reads back as that text.  It does not if it has an
indicator in the wrong place, or if it is a number, a truth value, a date or another
word that YAML reads as something else; then it is set in single quotes.  Double quotes
with escapes are left for what cannot be shown at all.

Long texts stay on one line.
-/
import TerminalConfig.Entry
import TerminalConfig.Text.HexDigit
import TerminalConfig.Text.Split

namespace TerminalConfig.Report.Yaml

/-! ### What YAML reads as something else than a text -/

def isDigit (c : Char) : Bool := '0' ≤ c && c ≤ '9'

/-- Digits and underscores that begin with a digit of the class. -/
def startsWith (first more : Char → Bool) : List Char → Bool
  | [] => false
  | c :: cs => first c && cs.all more

/-- Digits with underscores among them. -/
def isNumber (cs : List Char) : Bool :=
  startsWith isDigit (fun c => isDigit c || c == '_') cs

/-- Digits of a base with underscores among them, at least one of either. -/
def isBased (isBaseDigit : Char → Bool) (cs : List Char) : Bool :=
  !cs.isEmpty && cs.all fun c => isBaseDigit c || c == '_'

/-- A number without the sign before it. -/
def unsigned : List Char → List Char
  | '+' :: cs => cs
  | '-' :: cs => cs
  | cs => cs

/-- Minutes or seconds in a number to the base of sixty. -/
def isSixtieth : List Char → Bool
  | [a] => isDigit a
  | [a, b] => '0' ≤ a && a ≤ '5' && isDigit b
  | _ => false

/-- A number to the base of sixty, the parts of which stand between colons. -/
def isSexagesimal (isFirst isLast : List Char → Bool) (cs : List Char) : Bool :=
  match Text.splitAtEach ':' cs with
  | first :: next :: rest =>
    isFirst first && (next :: rest).dropLast.all isSixtieth &&
      isLast ((next :: rest).getLastD [])
  | _ => false

/-- Whether a text reads as an integer. -/
def isInteger (cs : List Char) : Bool :=
  let positive := startsWith (fun c => '1' ≤ c && c ≤ '9') (fun c => isDigit c || c == '_')
  match unsigned cs with
  | ['0'] => true
  | '0' :: 'b' :: digits => isBased (fun c => c == '0' || c == '1') digits
  | '0' :: 'x' :: digits => isBased (fun c => (Text.hexDigit? c).isSome) digits
  | '0' :: digits => isBased (fun c => '0' ≤ c && c ≤ '7') digits
  | digits => positive digits || isSexagesimal positive isSixtieth digits

/-- An exponent with its mark and its sign, or nothing. -/
def isExponent : List Char → Bool
  | [] => true
  | mark :: sign :: digits =>
    (mark == 'e' || mark == 'E') && (sign == '+' || sign == '-') && !digits.isEmpty &&
      digits.all isDigit
  | _ => false

/-- The digits after a point, with an exponent; there is a digit first if it is
`needed`. -/
def isFraction (needed : Bool) (cs : List Char) : Bool :=
  let digits := cs.takeWhile fun c => isDigit c || c == '_'
  (if needed then isNumber digits else true) &&
    isExponent (cs.drop digits.length)

/-- Whether a text reads as a floating point number. -/
def isFloat (cs : List Char) : Bool :=
  let special := String.ofList (unsigned cs)
  let whole := (unsigned cs).takeWhile (· != '.')
  let point := (unsigned cs).dropWhile (· != '.')
  special ∈ [".inf", ".Inf", ".INF"] || String.ofList cs ∈ [".nan", ".NaN", ".NAN"] ||
    match point with
    | '.' :: part =>
      (isNumber whole && isFraction false part) ||
        (cs.take 1 == ['.'] && isFraction true part) ||
        (isSexagesimal isNumber isSixtieth whole && part.all fun c => isDigit c || c == '_')
    | _ => false

/-- Takes between `least` and `most` digits, as many as there are. -/
def digits? (least most : Nat) (cs : List Char) : Option (List Char) :=
  let found := (cs.takeWhile isDigit).take most
  if found.length < least then none else some (cs.drop found.length)

/-- Takes one character. -/
def mark? (mark : Char) : List Char → Option (List Char)
  | [] => none
  | c :: cs => if c == mark then some cs else none

/-- Takes spaces and tabs. -/
def skipBlanks (cs : List Char) : List Char :=
  cs.dropWhile fun c => c == ' ' || c == '\t'

/-- Whether a text is a time zone, or nothing. -/
def isZone (cs : List Char) : Bool :=
  match skipBlanks cs with
  | [] => cs.isEmpty
  | ['Z'] => true
  | sign :: rest =>
    (sign == '+' || sign == '-') &&
      match digits? 1 2 rest with
      | none => false
      | some [] => true
      | some rest => (mark? ':' rest >>= digits? 2 2) == some []

/-- Whether a text is a time of day, after a separator. -/
def isTime (cs : List Char) : Bool :=
  let rest? : Option (List Char) := do
    let rest ← match cs with
      | 'T' :: rest => some rest
      | 't' :: rest => some rest
      | ' ' :: rest => some (skipBlanks rest)
      | '\t' :: rest => some (skipBlanks rest)
      | _ => none
    let rest ← digits? 1 2 rest >>= mark? ':' >>= digits? 2 2 >>= mark? ':' >>= digits? 2 2
    match rest with
    | '.' :: part => some (part.dropWhile isDigit)
    | _ => some rest
  rest?.any isZone

/-- Whether a text reads as a date, with or without a time. -/
def isDate (cs : List Char) : Bool :=
  let day? (least : Nat) : Option (List Char) :=
    digits? 4 4 cs >>= mark? '-' >>= digits? least 2 >>= mark? '-' >>= digits? least 2
  day? 2 == some [] || (day? 1).any isTime

/-- Words that do not read as texts. -/
def words : List String :=
  ["", "~", "null", "Null", "NULL", "yes", "Yes", "YES", "no", "No", "NO", "true", "True",
   "TRUE", "false", "False", "FALSE", "on", "On", "ON", "off", "Off", "OFF", "<<", "="]

/-- Whether a text would be read as something else. -/
def readsOtherwise (cs : List Char) : Bool :=
  words.contains (String.ofList cs) || isInteger cs || isFloat cs || isDate cs

/-! ### Indicators -/

def isBreak (c : Char) : Bool :=
  c == '\n' || c.toNat == 0x85 || c.toNat == 0x2028 || c.toNat == 0x2029

/-- Characters that separate words. -/
def isSeparator (c : Char) : Bool :=
  isBreak c || c == ' ' || c == '\t' || c == '\r' || c.toNat == 0

/-- Whether the text goes on with a separator or ends. -/
def separatorNext : List Char → Bool
  | [] => true
  | c :: _ => isSeparator c

/-- Whether an indicator stands in a text, after its first character. -/
def indicatorInside (separated : Bool) : List Char → Bool
  | [] => false
  | c :: cs =>
    (c == ':' && separatorNext cs) || (c == '#' && separated) ||
      indicatorInside (isSeparator c) cs

/-- The characters that cannot begin a text. -/
def leadingIndicators : List Char :=
  ['#', ',', '[', ']', '\x7b', '\x7d', '&', '*', '!', '|', '>', '\'', '"', '%', '@', '\x60']

/-- Whether a text has an indicator that keeps it from being written as it is. -/
def hasIndicator : List Char → Bool
  | [] => false
  | c :: cs =>
    leadingIndicators.contains c ||
      ((c == '?' || c == ':' || c == '-') && separatorNext cs) ||
      (c :: cs).take 3 == ['-', '-', '-'] || (c :: cs).take 3 == ['.', '.', '.'] ||
      indicatorInside (isSeparator c) cs

/-- Whether a character can be shown as it is. -/
def shows (c : Char) : Bool :=
  c == '\n' || (0x20 ≤ c.toNat && c.toNat ≤ 0x7E) || c.toNat == 0x85 ||
    (0xA0 ≤ c.toNat && c.toNat ≤ 0x10FFFE && c.toNat != 0xFEFF && c.toNat != 0xFFFE &&
      c.toNat != 0xFFFF)

/-- Whether a space and a line break stand side by side. -/
def spaceAtBreak : List Char → Bool
  | a :: b :: cs =>
    (a == ' ' && isBreak b) || (isBreak a && b == ' ') || spaceAtBreak (b :: cs)
  | _ => false

/-- Whether a character is a space or a line break. -/
def isPadding (c : Char) : Bool :=
  c == ' ' || isBreak c

/-- Whether a text can be written as it is. -/
def isPlain (cs : List Char) : Bool :=
  !readsOtherwise cs && !hasIndicator cs && cs.all (fun c => shows c && !isBreak c) &&
    !(cs.head?.any isPadding) && !(cs.getLast?.any isPadding)

/-! ### Writing -/

/-- The characters between single quotes.  A line break in the text is one more in the
document. -/
def singleQuoted (broken : Bool) : List Char → List Char
  | [] => if broken then [' ', ' ', ' ', ' '] else []
  | c :: cs =>
    if isBreak c then
      (if broken || c != '\n' then [c] else ['\n', c]) ++ singleQuoted true cs
    else
      (if broken then [' ', ' ', ' ', ' '] else []) ++
        (if c == '\'' then ['\'', '\''] else [c]) ++ singleQuoted false cs

/-- The short names of characters between double quotes. -/
def shortEscapes : List (Nat × Char) :=
  [(0, '0'), (7, 'a'), (8, 'b'), (9, 't'), (10, 'n'), (11, 'v'), (12, 'f'), (13, 'r'),
   (0x1B, 'e'), (0x22, '"'), (0x5C, '\\'), (0x85, 'N'), (0xA0, '_'), (0x2028, 'L'),
   (0x2029, 'P')]

/-- Whether a character is written as it is between double quotes. -/
def staysInQuotes (c : Char) : Bool :=
  (0x20 ≤ c.toNat && c.toNat ≤ 0x7E && c != '"' && c != '\\') ||
    (0xA0 ≤ c.toNat && c.toNat ≤ 0xFFFD && c.toNat != 0x2028 && c.toNat != 0x2029 &&
      c.toNat != 0xFEFF)

/-- A character between double quotes. -/
def doubleQuotedChar (c : Char) : List Char :=
  if staysInQuotes c then [c]
  else match shortEscapes.lookup c.toNat with
    | some short => ['\\', short]
    | none =>
      let code (width : Nat) := (Text.hexCode width c.toNat).map Char.toUpper
      if c.toNat ≤ 0xFF then '\\' :: 'x' :: code 2
      else if c.toNat ≤ 0xFFFF then '\\' :: 'u' :: code 4
      else '\\' :: 'U' :: code 8

/-- A text as a value. -/
def text (s : String) : String :=
  let cs := s.toList
  if isPlain cs then s
  else if cs.all shows && !spaceAtBreak cs then
    String.ofList ('\'' :: (singleQuoted false cs ++ ['\'']))
  else String.ofList ('"' :: (cs.flatMap doubleQuotedChar ++ ['"']))

/-- An entry as an item of a list. -/
def item (e : Entry) : String :=
  "- key: " ++ text e.key ++ "\n  value: " ++ (e.value.map text).getD "null" ++
    "\n  line: " ++ toString e.line ++ "\n"

/-- Entries as a document. -/
def document (entries : List Entry) : String :=
  if entries.isEmpty then "[]\n" else String.join (entries.map item)

end TerminalConfig.Report.Yaml
