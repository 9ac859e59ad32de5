/-
File paths, as far as they can be known without looking at files.

A path is a root and names.  Repeated slashes and single dots say nothing and are left
out; a double dot is kept, since what it means depends on the files.  Two slashes at the
front are a root of their own, more than two are one.
-/
import TerminalConfig.Text.Split

namespace TerminalConfig

/-- A path. -/
structure Path where
  /-- Nothing, one slash or two. -/
  root : List Char := []
  names : List (List Char) := []
deriving DecidableEq, Repr

namespace Path

/-- The root of a path that begins with so many slashes. -/
def rootOf (slashes : Nat) : List Char :=
  if slashes = 0 then [] else if slashes = 2 then ['/', '/'] else ['/']

/-- The path that is written like this. -/
def ofText (text : String) : Path :=
  let cs := text.toList
  ⟨rootOf (cs.takeWhile (· == '/')).length,
   (Text.splitAtEach '/' cs).filter fun name => name != [] && name != ['.']⟩

/-- The path with further names. -/
def join (path : Path) (names : List String) : Path :=
  { path with names := path.names ++ names.map String.toList }

/-- The path as it is written.  An empty one is the current directory. -/
def text (path : Path) : String :=
  if path.root = [] ∧ path.names = [] then "."
  else String.ofList (path.root ++ ['/'].intercalate path.names)

end Path

end TerminalConfig
