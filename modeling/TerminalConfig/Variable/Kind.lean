/-
The kinds of template variables.

Each kind has one name, by which messages and bindings call it.  Where a user names a
kind, longer names and abbreviations are understood as well, in any case and with white
space around them.
-/
import TerminalConfig.Text.Whitespace
import TerminalConfig.Text.Lowercase

namespace TerminalConfig

open Text

/-- What a variable holds. -/
inductive Kind
  | boolean
  | int32
  | uint32
  | single
  | double
  | text
deriving DecidableEq, Repr

namespace Kind

/-- The name of a kind. -/
def name : Kind → String
  | .boolean => "bool"
  | .int32 => "i32"
  | .uint32 => "u32"
  | .single => "f32"
  | .double => "f64"
  | .text => "str"

/-- The kind with exactly this name. -/
def ofName? : String → Option Kind
  | "bool" => some .boolean
  | "i32" => some .int32
  | "u32" => some .uint32
  | "f32" => some .single
  | "f64" => some .double
  | "str" => some .text
  | _ => none

/-- The kind that another name stands for. -/
def ofAlias? : String → Option Kind
  | "b" => some .boolean
  | "boolean" => some .boolean
  | "int" => some .int32
  | "int32" => some .int32
  | "uint" => some .uint32
  | "uint32" => some .uint32
  | "float" => some .single
  | "double" => some .double
  | "string" => some .text
  | "s" => some .text
  | _ => none

/-- A name as a user may write it, without its case and the white space around it. -/
def plainName (written : String) : String :=
  lowered (trimmed written)

/-- The kind that a user names. -/
def named? (written : String) : Option Kind :=
  (ofAlias? (plainName written)).orElse fun _ => ofName? (plainName written)

/-- Whether variables of the kind stand for numbers in conditions. -/
def isNumeric (k : Kind) : Bool :=
  k != .text

end Kind

end TerminalConfig
