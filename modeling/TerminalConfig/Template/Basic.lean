/-
Templates: texts with placeholders.

`{name}` stands for the text of a variable, and `{?condition:body}` for its body, which
is a template again, where the condition holds.  A backslash takes its meaning from any
character.

Reading a template never fails.  A placeholder that is not closed is left out with all
that follows it, and a conditional without a colon, like an empty placeholder, stands
for nothing.

A template is a sequence whose last element is the end, so the tree needs no lists.  A
body is read from the expression of its placeholder, which is shorter than the template
around it, and so the reading ends.
-/
import TerminalConfig.Template.Condition
import TerminalConfig.Template.Placeholder

namespace TerminalConfig

open Text

/-- A template that has been read. -/
inductive Template
  /-- The end. -/
  | nil
  /-- A character that stands for itself. -/
  | literal (c : Char) (rest : Template)
  /-- The text of a variable. -/
  | reference (name : List Char) (rest : Template)
  /-- A body that counts where the condition holds.  The condition is kept as it is
  written, without its escapes. -/
  | conditional (condition : List Char) (body rest : Template)
deriving DecidableEq, Repr

/-! ### Reading -/

namespace Template

/-- Reads a template. -/
def ofChars : List Char → Template
  | [] => .nil
  | ['\\'] => .nil
  | '\\' :: c :: cs => .literal c (ofChars cs)
  | '{' :: cs =>
    match hcut : Placeholder.cutClosing? 0 cs with
    | none => .nil
    | some (expression, rest) =>
      have := Placeholder.length_cutClosing? hcut
      match hread : Placeholder.ofChars expression with
      | .empty => ofChars rest
      | .reference name => .reference name (ofChars rest)
      | .conditional condition body =>
        have := Placeholder.length_body hread
        .conditional condition (ofChars body) (ofChars rest)
  | c :: cs => .literal c (ofChars cs)
termination_by cs => cs.length
decreasing_by
  all_goals simp only [List.length_cons]
  all_goals omega

/-- Reads the expression of a single placeholder. -/
def ofExpression (expression : List Char) : Template :=
  match Placeholder.ofChars expression with
  | .empty => .nil
  | .reference name => .reference name .nil
  | .conditional condition body => .conditional condition (ofChars body) .nil

/-- Whether a text has a placeholder: a brace that opens and is not escaped. -/
def hasPlaceholder : List Char → Bool
  | [] => false
  | ['\\'] => false
  | '\\' :: _ :: cs => hasPlaceholder cs
  | '{' :: _ => true
  | _ :: cs => hasPlaceholder cs

/-! ### Rendering -/

/-- The text that a template stands for. -/
def render (scope : Scope) : Template → Evaluation (List Char)
  | .nil => return []
  | .literal c rest => return c :: (← rest.render scope)
  | .reference name rest => do
    let key := String.ofList name
    match scope.find? key with
    | some v => return v.value.spelled.toList ++ (← rest.render scope)
    | none => do
      Evaluation.fail (.undefinedVariable key)
      rest.render scope
  | .conditional condition body rest => do
    if ← (Condition.ofChars condition).holds scope then
      let shown ← body.render scope
      return shown ++ (← rest.render scope)
    else rest.render scope

end Template

/-- What a template came to. -/
structure Rendering where
  text : String
  /-- The most recent fault. -/
  fault : Option Fault
deriving DecidableEq, Repr

/-- Renders a template, leaving out its control characters. -/
def interpolate (template : String) (scope : Scope) : Except NumeralError Rendering :=
  let cs := template.toList.filter fun c => !isControl c
  match ((Template.ofChars cs).render scope).start none with
  | (.ok text, fault) => .ok ⟨String.ofList text, fault⟩
  | (.error error, _) => .error error

/-- Whether rendering a template can depend on the variables. -/
def needsInterpolation (template : String) : Bool :=
  Template.hasPlaceholder template.toList

end TerminalConfig
