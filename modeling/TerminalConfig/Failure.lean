/-
What ends a command: the failures that the program knows, and how each is shown.
-/
import TerminalConfig.Settings.Diagnostic
import TerminalConfig.Path

namespace TerminalConfig

/-- Why a command ends early. -/
inductive Failure
  /-- The settings file that was asked for does not exist. -/
  | configNotFound (path : Path)
  /-- The settings text has problems, and none are allowed. -/
  | problems (diagnostics : List Diagnostic)
  | invalidValue (invalid : InvalidValue)
  /-- A failure that the host states itself. -/
  | stated (message : String) (exitCode : Int)
  /-- A failure that the program does not know. -/
  | unexpected (message : String)
deriving DecidableEq, Repr

namespace Failure

/-- What is wrong. -/
def message : Failure → String
  | .configNotFound path => "Config file not found: " ++ path.text
  | .problems diagnostics =>
    toString diagnostics.length ++ " problem(s) in config: " ++
      String.intercalate "; " (diagnostics.map Diagnostic.text)
  | .invalidValue invalid => invalid.message
  | .stated message _ => message
  | .unexpected message => message

/-- The exit code that a failure asks for. -/
def exitCode? : Failure → Option Int
  | .configNotFound _ => some 2
  | .problems _ => some 1
  | .invalidValue _ => some 1
  | .stated _ exitCode => some exitCode
  | .unexpected _ => none

/-- The exit code of the program. -/
def exitCode (f : Failure) : Int :=
  f.exitCode?.getD 1

/-- The line that is shown. -/
def report (f : Failure) : String :=
  (match f with
    | .unexpected _ => "Unexpected error: "
    | _ => "Error: ") ++ f.message

end Failure

end TerminalConfig
