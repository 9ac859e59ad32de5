/-
The two character classes that the whole configuration language shares.

A blank is a space or a tab and nothing else, so a no-break space is an ordinary
character of a value.  A control character is anything below the space, and delete.  The
two classes overlap in the tab, and a reader that asks for control characters first
therefore never sees a tab as a blank.
-/
namespace TerminalConfig.Text

/-- A space or a tab. -/
def isBlank (c : Char) : Bool :=
  c == ' ' || c == '\t'

/-- A character below the space, or delete. -/
def isControl (c : Char) : Bool :=
  c.toNat < 0x20 || c.toNat == 0x7F

/-- `cs` without the characters of a class at its front and at its back. -/
def trimWith (drop : Char → Bool) (cs : List Char) : List Char :=
  ((cs.dropWhile drop).reverse.dropWhile drop).reverse

/-- `cs` without the blanks around it. -/
def trimBlanks (cs : List Char) : List Char :=
  trimWith isBlank cs

end TerminalConfig.Text
