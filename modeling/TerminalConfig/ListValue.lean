/-
Taking a value apart into the elements of a list.

A value is a list only if it holds an opening bracket that is not escaped, and
everything else is a single element.  Whether a character is escaped depends on nothing
but the run of backslashes before it, so the two readings agree on what they skip.

The reading of a list is forgiving.  Brackets do not nest, text outside the brackets
counts, and a closing bracket before any opening one stands for itself.  Whatever is
wrong is reported beside the elements, and there is always at least one element.
-/
import TerminalConfig.Text.Blank

namespace TerminalConfig

open Text (isBlank)

/-- What can be odd about a list value. -/
inductive ListProblem
  /-- The value ends before its list does. -/
  | openList (value : String)
  /-- There is one element only, which may not have been meant as a list. -/
  | singleElement (value element : String)
  /-- The value ends inside quotes. -/
  | openQuote (value : String)
deriving DecidableEq, Repr

/-- What the user is told. -/
def ListProblem.message : ListProblem → String
  | .openList value => "list not terminated in '" ++ value ++ "'"
  | .singleElement value element =>
    "'" ++ value ++ "' is a single element list, did you mean '\\[" ++ element ++ "\\]'?"
  | .openQuote value => "string not terminated in list '" ++ value ++ "'"

/-- A value taken apart. -/
structure Expansion where
  first : String
  /-- The elements after the first. -/
  others : List String := []
  problems : List ListProblem := []
deriving DecidableEq, Repr

/-- All elements in the order of the value, repetitions included. -/
def Expansion.elements (e : Expansion) : List String :=
  e.first :: e.others

namespace ListValue

/-- Whether a bracket that is not escaped follows; `escaped` says that a backslash came
right before. -/
def opensList (escaped : Bool) : List Char → Bool
  | [] => false
  | c :: cs => (c == '[' && !escaped) || opensList (c == '\\' && !escaped) cs

/-- Whether a value is a list. -/
def isList (value : String) : Bool :=
  opensList false value.toList

/-- A scalar with its escapes resolved: a backslash is dropped and the character after
it kept. -/
def resolve (escaped : Bool) : List Char → List Char
  | [] => []
  | c :: cs =>
    let escaped := c == '\\' && !escaped
    if escaped then resolve escaped cs else c :: resolve escaped cs

/-- Where the reading of a list stands. -/
structure Scan where
  /-- The elements before the current one. -/
  finished : List String := []
  current : String := ""
  /-- Quoted blanks that count only if more of the element follows. -/
  blanks : String := ""
  inString : Bool := false
  inList : Bool := false
  escaped : Bool := false
  /-- A bracket has opened the list at some point. -/
  opened : Bool := false
deriving DecidableEq, Repr

namespace Scan

/-- A character of an element.  Blanks outside quotes are left out.  Quoted ones are
kept at the front and inside, and given up at the end. -/
def take (s : Scan) (c : Char) : Scan :=
  let s := { s with escaped := false }
  if !s.inString && isBlank c then s
  else if isBlank c && s.current != "" then { s with blanks := s.blanks.push c }
  else { s with current := (s.current ++ s.blanks).push c, blanks := "" }

/-- One character of a list value. -/
def step (s : Scan) (c : Char) : Scan :=
  if s.escaped then s.take c
  else if c == '[' && !s.inString then { s with opened := true, inList := true }
  else if c == ']' && !s.inString && s.inList then { s with inList := false }
  else if c == '"' then
    { s with inString := !s.inString, blanks := if s.inString then s.blanks else "" }
  else if c == '\\' then { s with escaped := true }
  else if c == ',' && !s.inString then
    { s with finished := s.finished ++ [s.current], current := "", blanks := "" }
  else s.take c

/-- What is odd about a value whose reading ended like this. -/
def problems (s : Scan) (value : String) : List ListProblem :=
  (if s.inList then [.openList value]
    else if s.opened && s.finished.isEmpty then [.singleElement value s.current]
    else []) ++
  (if s.inString then [.openQuote value] else [])

/-- The elements of a value whose reading ended like this. -/
def expansion (s : Scan) (value : String) : Expansion :=
  match s.finished with
  | [] => ⟨s.current, [], s.problems value⟩
  | first :: others => ⟨first, others ++ [s.current], s.problems value⟩

end Scan

/-- Takes a value apart. -/
def expand (value : String) : Expansion :=
  if isList value then (value.toList.foldl Scan.step {}).expansion value
  else { first := String.ofList (resolve false value.toList) }

/-- Takes the value of an entry apart; a flag has one empty element. -/
def expandEntry : Option String → Expansion
  | none => { first := "" }
  | some value => expand value

end ListValue

end TerminalConfig
