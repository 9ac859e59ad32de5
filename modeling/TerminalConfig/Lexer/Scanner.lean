/-
The machine that reads a settings text, one character at a time.

A line is a key, an equals sign and a value, or a key alone.  The machine keeps what it
has read of each, and five flags that say where it stands.  One character does at most
three things: it moves the machine, completes an entry, and shows a problem.

Whether the reading goes on after a problem is not for the machine to say.  So where a
problem shows, the step holds both continuations: the state if the reader carries on,
with the machine mended as well as it can be, and the state if the reader is told to
stop, which is the state in which the character was found.

Two rules are easy to miss.

  * Blanks inside an unquoted value are kept aside until a further character shows that
    they are not at its end.
  * Inside a list a value keeps its quotes and backslashes, because the list is taken
    apart later and has to see them.  A bracket inside quotes gets a backslash, so that
    it is not taken for a list there.
-/
import TerminalConfig.Text.Blank
import TerminalConfig.Entry

namespace TerminalConfig

open Text (isBlank isControl)

/-- The state of the machine between two characters. -/
structure Scanner where
  /-- The line of the next character. -/
  line : Nat := 1
  /-- The line of the latest equals sign, 0 before the first. -/
  keyLine : Nat := 0
  key : String := ""
  value : String := ""
  /-- Blanks of the value that count only if more of it follows. -/
  blanks : String := ""
  inComment : Bool := false
  inValue : Bool := false
  inString : Bool := false
  inList : Bool := false
  escaped : Bool := false
deriving DecidableEq, Repr

/-- What one character does. -/
inductive Step
  /-- It moves the machine and may complete an entry. -/
  | taken (next : Scanner) (entry : Option Entry)
  /-- It shows a problem as well: the machine is in `onward` if the reading goes on, and
  in `halted` if it is told to stop. -/
  | faulty (error : SyntaxError) (entry : Option Entry) (onward halted : Scanner)

namespace Scanner

/-- Adds a character to the value, after the blanks that waited for it. -/
def push (s : Scanner) (c : Char) : Scanner :=
  { s with value := (s.value ++ s.blanks).push c, blanks := "" }

/-- The entry of a value that ends here. -/
def valueEntry (s : Scanner) : Entry :=
  ⟨s.key, some s.value, s.keyLine⟩

/-- The entry of a key that stands alone, if there is a key. -/
def flagEntry (s : Scanner) : Option Entry :=
  if s.key = "" then none else some ⟨s.key, none, s.line⟩

/-- The machine after the line of a value. -/
def afterValue (s : Scanner) : Scanner :=
  { s with key := "", value := "", blanks := "", inValue := false, inString := false,
           escaped := false }

/-- A newline that ends a value. -/
def endValue (s : Scanner) : Step :=
  if s.inString then .faulty .quoteAtLineEnd (some s.valueEntry) s.afterValue s.afterValue
  else .taken s.afterValue (some s.valueEntry)

/-- A quote that opens or closes a quoted part.  Blanks before an opening quote do not
count. -/
def toggleQuote (s : Scanner) : Scanner :=
  let s := if s.inString then s else { s with blanks := "" }
  let s := { s with inString := !s.inString }
  if s.inList then s.push '"' else s

/-- A quote that is not escaped.  One that opens after text outside a list is a problem,
and that text is given up. -/
def stepQuote (s : Scanner) : Step :=
  if !s.inString && s.value != "" && !s.inList then
    .faulty (.textBeforeQuote s.value) none (toggleQuote { s with value := "" }) s
  else .taken s.toggleQuote none

/-- A character that stands for itself.  A control character is left out; a blank
outside quotes waits for what follows, and is dropped at the start of a value. -/
def plain (s : Scanner) (c : Char) : Scanner :=
  if isControl c then { s with escaped := false }
  else if s.inString || !isBlank c then
    let s := if s.inString && (c == '[' || c == ']') then s.push '\\' else s
    { s.push c with escaped := false }
  else if s.value != "" then { s with blanks := s.blanks.push c, escaped := false }
  else { s with escaped := false }

/-- A character after a backslash, outside a list. -/
def stepEscaped (s : Scanner) (c : Char) : Step :=
  if c == 'n' then .taken { s.push '\n' with escaped := false } none
  else if c == '"' && s.inString then .taken { s.push '"' with escaped := false } none
  else .faulty (.badEscape c) none { s with escaped := false } s

/-- A character of a value. -/
def stepValue (s : Scanner) (c : Char) : Step :=
  if c == '\\' && !s.escaped then
    let s := { s with escaped := true }
    .taken (if s.inList then s.push c else s) none
  else if c == '"' && !s.escaped then s.stepQuote
  else if c == '[' && !s.escaped && !s.inString then
    let opened := { s with inList := true }
    if s.inList then .faulty .nestedList none (opened.plain c) s
    else .taken (opened.plain c) none
  else if c == ']' && !s.escaped && !s.inString then
    let closed := { s with inList := false }
    if s.inList then .taken (closed.plain c) none
    else .faulty .unopenedList none (closed.plain c) s
  else if c == '\n' && !s.inList then s.endValue
  else if s.escaped && !s.inList then s.stepEscaped c
  else .taken (s.plain c) none

/-- A character before the equals sign.  A key has no blanks and no control characters. -/
def stepKey (s : Scanner) (c : Char) : Step :=
  if c == '=' then .taken { s with keyLine := s.line, inValue := true } none
  else if c == '\n' then .taken { s with key := "" } s.flagEntry
  else if isControl c || isBlank c then .taken s none
  else .taken { s with key := s.key.push c } none

/-- A character outside a comment. -/
def stepPlace (s : Scanner) (c : Char) : Step :=
  if s.inValue then s.stepValue c else s.stepKey c

/-- One character, before lines are counted.  A comment runs to the end of its line, and
the newline is then read as if the comment were not there. -/
def step (s : Scanner) (c : Char) : Step :=
  if s.inComment then
    if c == '\n' then stepPlace { s with inComment := false } c else .taken s none
  else if c == '#' && !s.escaped && !s.inString then .taken { s with inComment := true } none
  else s.stepPlace c

/-- Counts the line that `c` ends. -/
def countLine (s : Scanner) (c : Char) : Scanner :=
  if c == '\n' then { s with line := s.line + 1 } else s

/-- The entry that the end of the text completes. -/
def endEntry (s : Scanner) : Option Entry :=
  if s.inValue then some s.valueEntry else s.flagEntry

/-- What the end of the text leaves open, the quote before the list. -/
def endErrors (s : Scanner) : List SyntaxError :=
  (if s.inString then [.quoteAtEnd] else []) ++ (if s.inList then [.listAtEnd] else [])

end Scanner

end TerminalConfig
