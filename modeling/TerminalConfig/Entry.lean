/-
What a settings text is made of: entries, in the order of the text, and problems.

A key may stand alone on its line, in which case it is a flag and has no value.  That is
not the same as an empty value, which is what `key =` has.
-/
namespace TerminalConfig

/-- One setting of a text. -/
structure Entry where
  key : String
  /-- The text after the equals sign, none for a flag. -/
  value : Option String
  /-- The line of the equals sign, or of the flag; lines count from one. -/
  line : Nat
deriving DecidableEq, Repr

/-- What can be wrong with the spelling of a settings text. -/
inductive SyntaxError
  /-- A quote opens after text that is not part of a list. -/
  | textBeforeQuote (text : String)
  /-- A list opens inside a list. -/
  | nestedList
  /-- A list closes that was never opened. -/
  | unopenedList
  /-- A backslash stands before a character that cannot be escaped there. -/
  | badEscape (escaped : Char)
  /-- The line ends inside quotes. -/
  | quoteAtLineEnd
  /-- The text ends inside quotes. -/
  | quoteAtEnd
  /-- The text ends inside a list. -/
  | listAtEnd
deriving DecidableEq, Repr

/-- What the user is told. -/
def SyntaxError.message : SyntaxError → String
  | .textBeforeQuote text => "unexpected token '" ++ text ++ "' before '\"'"
  | .nestedList => "list element cannot be a list, did you mean '\\[' ?"
  | .unopenedList => "'[' expected before ']' did you mean '\\]' ?"
  | .badEscape escaped =>
    "escape character '" ++ String.singleton escaped ++ "' invalid in this context"
  | .quoteAtLineEnd => "'\"' expected before end of line"
  | .quoteAtEnd => "'\"' expected before end of file"
  | .listAtEnd => "']' expected before end of file"

/-- A spelling error and the line it was noticed on. -/
structure Problem where
  line : Nat
  error : SyntaxError
deriving DecidableEq, Repr

/-- What can be seen while a text is read, in the order it is seen. -/
inductive Event
  | entry (entry : Entry)
  | problem (problem : Problem)
deriving DecidableEq, Repr

end TerminalConfig
