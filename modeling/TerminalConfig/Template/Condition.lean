/-
Conditions.

A condition is a conjunction of alternatives: `&&` separates more weakly than `||`, so
that `a && b || c` asks for `a` and for one of `b` and `c`.  Each alternative compares
two operands or is a lone operand, which holds unless it is zero.  Evaluation goes from
left to right and stops as soon as the outcome is certain, so later operands may never
be looked at.

A relation is looked for in a fixed order over the whole of an alternative, not from
left to right: the first in the order that occurs anywhere cuts it, where it first
occurs.
-/
import TerminalConfig.Template.Evaluation
import TerminalConfig.Text.Split

namespace TerminalConfig

open Text

/-- How two operands can be compared. -/
inductive Relation
  | atMost
  | atLeast
  | below
  | above
  | differs
  | equals
deriving DecidableEq, Repr

/-- A relation as it is written. -/
def Relation.spelling : Relation → List Char
  | .atMost => ['<', '=']
  | .atLeast => ['>', '=']
  | .below => ['<']
  | .above => ['>']
  | .differs => ['!', '=']
  | .equals => ['=', '=']

/-- One alternative of a condition.  Operands are kept as they are written. -/
inductive Comparison
  | lone (operand : List Char)
  | related (relation : Relation) (left right : List Char)
deriving DecidableEq, Repr

/-- All of these must hold, each by one of its alternatives. -/
abbrev Condition := List (List Comparison)

/-! ### Reading -/

namespace Comparison

/-- Reads a comparison by the first relation, in the order given, that occurs in it. -/
def ofCharsBy (cs : List Char) : List Relation → Comparison
  | [] => .lone cs
  | relation :: relations =>
    match cut? relation.spelling cs with
    | some (left, right) => .related relation left right
    | none => ofCharsBy cs relations

/-- Reads a comparison.  The relations of two characters come before those they begin
with. -/
def ofChars (cs : List Char) : Comparison :=
  ofCharsBy cs [.atMost, .atLeast, .below, .above, .differs, .equals]

end Comparison

namespace Condition

/-- Reads a condition. -/
def ofChars (cs : List Char) : Condition :=
  (splitDoubled '&' cs).map fun part => (splitDoubled '|' part).map Comparison.ofChars

end Condition

/-! ### Operands -/

namespace Operand

/-- An operand without its exclamation mark, and whether it had one. -/
def plain (cs : List Char) : Bool × List Char :=
  match trimBlanks cs with
  | '!' :: rest => (true, trimBlanks rest)
  | rest => (false, rest)

/-- One for zero, and zero for everything else. -/
def negate (x : Binary64) : Binary64 :=
  .ofBool x.isZero

/-- The number that an operand stands for.  It is a truth value, a variable, or a number
that the text begins with, and zero otherwise.  A text variable is a fault, and then an
exclamation mark before it does not count. -/
def number (scope : Scope) (cs : List Char) : Evaluation Binary64 :=
  let (negated, cs) := plain cs
  let text := String.ofList cs
  let finish := fun x => if negated then negate x else x
  match lowered text with
  | "true" => return finish (.ofBool true)
  | "false" => return finish (.ofBool false)
  | _ =>
    match scope.find? text with
    | none => return finish (← Evaluation.ofExcept (Numeral.readLeading text))
    | some v =>
      match v.value.number? with
      | some x => return finish x
      | none => do
        Evaluation.fail (.textOperand text)
        return .zero

/-- The text of a text variable that an operand names. -/
def text? (scope : Scope) (cs : List Char) : Option String :=
  match (scope.find? (String.ofList (trimBlanks cs))).map Variable.value with
  | some (.text s) => some s
  | _ => none

/-- Whether two operands are equal.  Two text variables are compared as texts, and all
else as numbers. -/
def equal (scope : Scope) (left right : List Char) : Evaluation Bool :=
  match text? scope left, text? scope right with
  | some s, some t => return s == t
  | _, _ => return (← number scope left).equals (← number scope right)

end Operand

/-! ### Truth -/

/-- Whether a comparison holds. -/
def Comparison.holds (scope : Scope) : Comparison → Evaluation Bool
  | .lone operand => return !(← Operand.number scope operand).isZero
  | .related .equals left right => Operand.equal scope left right
  | .related .differs left right => return !(← Operand.equal scope left right)
  | .related .atMost left right =>
    return (← Operand.number scope left).atMost (← Operand.number scope right)
  | .related .below left right =>
    return (← Operand.number scope left).less (← Operand.number scope right)
  | .related .atLeast left right => do
    let x ← Operand.number scope left
    let y ← Operand.number scope right
    return y.atMost x
  | .related .above left right => do
    let x ← Operand.number scope left
    let y ← Operand.number scope right
    return y.less x

namespace Condition

/-- Whether one of the alternatives holds. -/
def anyHolds (scope : Scope) : List Comparison → Evaluation Bool
  | [] => return false
  | c :: cs => do if ← c.holds scope then return true else anyHolds scope cs

/-- Whether a condition holds. -/
def holds (scope : Scope) : Condition → Evaluation Bool
  | [] => return true
  | alternatives :: rest => do
    if ← anyHolds scope alternatives then holds scope rest else return false

end Condition

end TerminalConfig
