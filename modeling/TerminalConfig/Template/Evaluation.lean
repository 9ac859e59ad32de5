/-
Evaluating templates and conditions.

Evaluation reads the variables and keeps the most recent fault.  A fault does not stop
it:  the part that failed counts as empty text or as zero, and the host is told of the
last fault at the end.  The one thing that does stop it is a text that begins like a
numeral and cannot be read as one.  The faults up to there are kept.
-/
import TerminalConfig.Variable.Scope
import TerminalConfig.Number.Prefix

namespace TerminalConfig

/-- What is wrong with a part of a template. -/
inductive Fault
  /-- No variable has this name. -/
  | undefinedVariable (name : String)
  /-- A text stands where a number is needed. -/
  | textOperand (name : String)
  /-- A fault that the host reports itself. -/
  | reported (message : String)
deriving DecidableEq, Repr

/-- What the user is told. -/
def Fault.message : Fault → String
  | .undefinedVariable name => "reference to undefined variable '" ++ name ++ "'"
  | .textOperand name => "cannot use string variable '" ++ name ++ "' in numeric context"
  | .reported message => message

/-- A computation that keeps the most recent fault and may stop at a numeral. -/
abbrev Evaluation := ExceptT NumeralError (StateM (Option Fault))

namespace Evaluation

/-- Notes a fault. -/
def fail (fault : Fault) : Evaluation Unit :=
  set (some fault)

/-- Carries on with what has been read, or stops. -/
def ofExcept (read : Except NumeralError α) : Evaluation α :=
  MonadExcept.ofExcept read

/-- The result of an evaluation that starts with a given fault, and the fault after it. -/
def start (evaluation : Evaluation α) (fault : Option Fault) :
    Except NumeralError α × Option Fault :=
  evaluation.run fault

@[simp] theorem start_pure (a : α) (fault : Option Fault) :
    (pure a : Evaluation α).start fault = (.ok a, fault) := rfl

/-- One evaluation after another, which sees the fault that the first has left. -/
theorem start_bind (evaluation : Evaluation α) (next : α → Evaluation β)
    (fault : Option Fault) :
    (evaluation >>= next).start fault =
      match evaluation.start fault with
      | (.ok a, later) => (next a).start later
      | (.error error, later) => (.error error, later) := by
  unfold start ExceptT.run
  simp only [bind, ExceptT.bind, ExceptT.mk, StateT.bind, ExceptT.bindCont]
  rcases evaluation fault with ⟨result, later⟩
  cases result <;> rfl

@[simp] theorem start_fail (fault : Fault) (before : Option Fault) :
    (fail fault).start before = (.ok (), some fault) := rfl

end Evaluation

end TerminalConfig
