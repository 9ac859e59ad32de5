/-
What can be wrong with settings.

None of it stops the reading of a settings text.  Each complaint is kept with the line
that it is about, and the line is 0 where it is not known.
-/
import TerminalConfig.Entry
import TerminalConfig.ListValue
import TerminalConfig.Color.Basic

namespace TerminalConfig

open Text

/-- Why a value does not suit its setting. -/
inductive Misfit
  /-- The setting has one value and was given several. -/
  | list
  | notNumber
  | belowMinimum (minimum : Nat)
  | noFont
  | color (error : ColorError)
  /-- A reason that the host states itself. -/
  | stated (reason : String)
deriving DecidableEq, Repr

/-- What the user is told. -/
def Misfit.message : Misfit → String
  | .list => "does not accept a list"
  | .notNumber => "expected a number"
  | .belowMinimum minimum => "must be at least " ++ toString minimum
  | .noFont => "expected at least one font family"
  | .color error => error.message
  | .stated reason => reason

/-- A value that does not suit its setting. -/
structure InvalidValue where
  setting : String
  value : Option String
  misfit : Misfit
deriving DecidableEq, Repr

/-- What the user is told. -/
def InvalidValue.message (v : InvalidValue) : String :=
  "invalid value " ++ (match v.value with
    | some value => quoted value
    | none => "None") ++ " for '" ++ v.setting ++ "': " ++ v.misfit.message

/-- What is wrong with a settings text. -/
inductive Complaint
  | syntaxError (error : SyntaxError)
  | listProblem (problem : ListProblem)
  | unknownSetting (name : String)
  /-- A flag is neither set nor unset. -/
  | badFlag (name value : String)
  | missingValue (name : String)
  | invalidValue (invalid : InvalidValue)
  /-- A complaint that the host makes itself. -/
  | remark (message : String)
deriving DecidableEq, Repr

/-- What the user is told. -/
def Complaint.message : Complaint → String
  | .syntaxError error => error.message
  | .listProblem problem => problem.message
  | .unknownSetting name => "unknown setting '" ++ name ++ "'"
  | .badFlag name value => "'" ++ name ++ "' expects true or false, got '" ++ value ++ "'"
  | .missingValue name => "'" ++ name ++ "' requires a value"
  | .invalidValue invalid => invalid.message
  | .remark message => message

/-- A complaint and its line. -/
structure Diagnostic where
  line : Int
  complaint : Complaint
deriving DecidableEq, Repr

/-- A message with its line, if it has one. -/
def atLine (line : Int) (message : String) : String :=
  if line = 0 then message else "line " ++ toString line ++ ": " ++ message

/-- The diagnostic as it is shown. -/
def Diagnostic.text (d : Diagnostic) : String :=
  atLine d.line d.complaint.message

end TerminalConfig
