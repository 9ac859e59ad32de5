/-
Template variables: a name and a value of one of six kinds.

A value is made from a raw one by fitting it to a kind.  A truth value, an integer, a
number or a text can be fitted to any kind, and so can nothing at all, save to the kinds
of numbers.  Fitting a number to an integer cuts its fraction off, fitting a text to a
number reads it, and an integer that its kind cannot hold is refused rather than cut
down.  An integer that is too long to be written is not fitted to a text either.

The two kinds of floating point numbers differ in their name only.
-/
import TerminalConfig.Variable.Kind
import TerminalConfig.Number.Reading
import TerminalConfig.Number.Shortest

namespace TerminalConfig

open Text

/-- A value before it is fitted to a kind. -/
inductive RawValue
  | nothing
  | boolean (b : Bool)
  | integer (n : Int)
  | number (x : Binary64)
  | text (s : String)
deriving DecidableEq, Repr

/-- The value of a variable. -/
inductive Value
  | boolean (b : Bool)
  | int32 (n : Int32)
  | uint32 (n : UInt32)
  | single (x : Binary64)
  | double (x : Binary64)
  | text (s : String)
deriving DecidableEq, Repr

/-- Why there is no such variable, or why it is no number. -/
inductive VariableError
  /-- A binding has no equals sign. -/
  | noValue (binding : String)
  /-- A binding has no name before its equals sign. -/
  | noName (binding : String)
  | unknownKind (name : String)
  | badBoolean (written name : String)
  | badNumeral (error : NumeralError)
  /-- The integer does not fit into 32 bits with a sign. -/
  | beyondInt32 (n : Int)
  /-- The integer does not fit into 32 bits without a sign. -/
  | beyondUInt32 (n : Int)
  /-- The integer is larger than any double. -/
  | beyondDouble
  | infiniteInteger
  | nanInteger
  /-- Nothing was to be fitted to a kind of integers. -/
  | noInteger
  /-- Nothing was to be fitted to a kind of floating point numbers. -/
  | noNumber
  /-- A text was asked for its number. -/
  | textAsNumber (name : String)
deriving DecidableEq, Repr

/-- What is said of an integer.  If it is too long to be written, only that is told. -/
def saidOfInteger (n : Int) (said : String) : String :=
  match writeInteger n with
  | .ok written => written ++ said
  | .error error => error.message

/-- What the user is told. -/
def VariableError.message : VariableError → String
  | .noValue binding => "expected name[:kind]=value, got " ++ quoted binding
  | .noName binding => "missing variable name in " ++ quoted binding
  | .unknownKind name => quoted name ++ " is not a valid VarKind"
  | .badBoolean written name =>
    "invalid boolean " ++ quoted written ++ " for variable " ++ quoted name
  | .badNumeral error => error.message
  | .beyondInt32 n => saidOfInteger n " does not fit in a 32-bit signed integer"
  | .beyondUInt32 n => saidOfInteger n " does not fit in a 32-bit unsigned integer"
  | .beyondDouble => "int too large to convert to float"
  | .infiniteInteger => "cannot convert float infinity to integer"
  | .nanInteger => "cannot convert float NaN to integer"
  | .noInteger =>
    "int() argument must be a string, a bytes-like object or a real number, not 'NoneType'"
  | .noNumber => "float() argument must be a string or a real number, not 'NoneType'"
  | .textAsNumber name => "variable " ++ quoted name ++ " is a string"

/-! ### Fitting -/

/-- Whether an integer fits into 32 bits with a sign. -/
def fitsInt32 (n : Int) : Bool :=
  Int32.minValue.toInt ≤ n && n ≤ Int32.maxValue.toInt

/-- Whether an integer fits into 32 bits without a sign. -/
def fitsUInt32 (n : Int) : Bool :=
  0 ≤ n && n < UInt32.size

namespace RawValue

/-- Whether the value counts as true. -/
def truth : RawValue → Bool
  | .nothing => false
  | .boolean b => b
  | .integer n => n != 0
  | .number x => !x.isZero
  | .text s => s != ""

/-- The value as an integer. -/
def integer? : RawValue → Except VariableError Int
  | .nothing => .error .noInteger
  | .boolean b => .ok (if b then 1 else 0)
  | .integer n => .ok n
  | .number x =>
    match x.truncate? with
    | some n => .ok n
    | none => .error (if x.isInfinite then .infiniteInteger else .nanInteger)
  | .text s => (readInteger s).mapError .badNumeral

/-- The value as a double. -/
def number? : RawValue → Except VariableError Binary64
  | .nothing => .error .noNumber
  | .boolean b => .ok (.ofBool b)
  | .integer n =>
    let x := Binary64.ofInt n
    if x.isInfinite then .error .beyondDouble else .ok x
  | .number x => .ok x
  | .text s => (readDecimal s).mapError .badNumeral

/-- The value as a text. -/
def text? : RawValue → Except VariableError String
  | .nothing => .ok "None"
  | .boolean b => .ok (if b then "True" else "False")
  | .integer n => (writeInteger n).mapError .badNumeral
  | .number x => .ok x.text
  | .text s => .ok s

/-- The kind that a value has of itself.  An integer that needs more than 32 bits with a
sign is taken to be without one. -/
def kind : RawValue → Kind
  | .nothing => .text
  | .boolean _ => .boolean
  | .integer n => if fitsInt32 n then .int32 else .uint32
  | .number _ => .double
  | .text _ => .text

/-- The value fitted to a kind. -/
def fit (kind : Kind) (raw : RawValue) : Except VariableError Value :=
  match kind with
  | .boolean => .ok (.boolean raw.truth)
  | .int32 => do
    let n ← raw.integer?
    if fitsInt32 n then .ok (.int32 (Int32.ofInt n)) else .error (.beyondInt32 n)
  | .uint32 => do
    let n ← raw.integer?
    if fitsUInt32 n then .ok (.uint32 (UInt32.ofNat n.toNat))
    else .error (.beyondUInt32 n)
  | .single => return .single (← raw.number?)
  | .double => return .double (← raw.number?)
  | .text => return .text (← raw.text?)

end RawValue

/-! ### Values -/

namespace Value

def kind : Value → Kind
  | .boolean _ => .boolean
  | .int32 _ => .int32
  | .uint32 _ => .uint32
  | .single _ => .single
  | .double _ => .double
  | .text _ => .text

/-- The text that stands for the value in a template. -/
def spelled : Value → String
  | .boolean b => if b then "true" else "false"
  | .int32 n => toString n.toInt
  | .uint32 n => toString n.toNat
  | .single x => x.text
  | .double x => x.text
  | .text s => s

/-- The number that stands for the value in a condition; a text has none. -/
def number? : Value → Option Binary64
  | .boolean b => some (.ofBool b)
  | .int32 n => some (.ofInt n.toInt)
  | .uint32 n => some (.ofInt n.toNat)
  | .single x => some x
  | .double x => some x
  | .text _ => none

end Value

/-- A named value. -/
structure Variable where
  name : String
  value : Value
deriving DecidableEq, Repr

namespace Variable

/-- The variable of a given kind. -/
def make (name : String) (kind : Kind) (raw : RawValue) : Except VariableError Variable :=
  (raw.fit kind).map (⟨name, ·⟩)

/-- The variable of the kind that its value has of itself. -/
def infer (name : String) (raw : RawValue) : Except VariableError Variable :=
  make name raw.kind raw

def kind (v : Variable) : Kind :=
  v.value.kind

/-- The number that stands for the variable in a condition. -/
def number (v : Variable) : Except VariableError Binary64 :=
  match v.value.number? with
  | some x => .ok x
  | none => .error (.textAsNumber v.name)

end Variable

end TerminalConfig
