/-
Variables as a user writes them: `name:kind=value`.

The first equals sign ends the target, and the first colon of the target ends the name,
so a value may hold both.  Without a kind the value is a text.  A truth value is written
as a word or a digit; any other value is fitted to its kind as a text.
-/
import TerminalConfig.Variable.Basic

namespace TerminalConfig

open Text

namespace Variable

/-- Cuts a text at the first `mark`; without one there is no second part. -/
def cutAt (mark : Char) (cs : List Char) : List Char × Option (List Char) :=
  match cs.dropWhile (· != mark) with
  | [] => (cs, none)
  | _ :: rest => (cs.takeWhile (· != mark), some rest)

/-- The truth value that a word stands for.  Nothing written is false. -/
def truthOf? : String → Option Bool
  | "true" => some true
  | "1" => some true
  | "yes" => some true
  | "on" => some true
  | "false" => some false
  | "0" => some false
  | "no" => some false
  | "off" => some false
  | "" => some false
  | _ => none

/-- The kind that a target names after its colon, if it names one. -/
def kindOf (written : Option (List Char)) : Except VariableError Kind :=
  let name := String.ofList (written.getD [])
  if trimmed name == "" then .ok .text
  else match Kind.named? name with
    | some kind => .ok kind
    | none => .error (.unknownKind (Kind.plainName name))

/-- The variable that a binding describes. -/
def ofBinding (binding : String) : Except VariableError Variable :=
  match cutAt '=' binding.toList with
  | (_, none) => .error (.noValue binding)
  | (target, some cs) => do
    let written := String.ofList cs
    let (nameChars, kindChars) := cutAt ':' target
    let name := String.ofList (trim nameChars)
    if name == "" then throw (.noName binding)
    match ← kindOf kindChars with
    | .boolean =>
      match truthOf? (lowered (trimmed written)) with
      | some b => return ⟨name, .boolean b⟩
      | none => throw (.badBoolean written name)
    | kind => make name kind (.text written)

end Variable

end TerminalConfig
