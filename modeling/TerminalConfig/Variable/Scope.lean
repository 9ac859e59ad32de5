/-
The variables that a template sees.

A scope gives each key one variable.  Usually the key is the name of the variable, and
then a later variable replaces an earlier one of the same name; but a host may put a
variable under any key, and templates know it by that key.
-/
import TerminalConfig.Variable.Basic

namespace TerminalConfig

/-- Variables by key. -/
structure Scope where
  bindings : List (String × Variable) := []
deriving Repr

namespace Scope

/-- The variable under a key. -/
def find? (scope : Scope) (key : String) : Option Variable :=
  scope.bindings.lookup key

/-- `bindings` with a variable put under a key, in place of the one that was there. -/
def put (key : String) (v : Variable) : List (String × Variable) → List (String × Variable)
  | [] => [(key, v)]
  | (k, w) :: rest => if k == key then (key, v) :: rest else (k, w) :: put key v rest

/-- Puts a variable under a key. -/
def insert (scope : Scope) (key : String) (v : Variable) : Scope :=
  ⟨put key v scope.bindings⟩

/-- A scope with variables under keys of their own. -/
def ofPairs (pairs : List (String × Variable)) : Scope :=
  pairs.foldl (fun scope (key, v) => scope.insert key v) {}

/-- A scope with variables under their names. -/
def ofVariables (vs : List Variable) : Scope :=
  ofPairs (vs.map fun v => (v.name, v))

end Scope

end TerminalConfig
