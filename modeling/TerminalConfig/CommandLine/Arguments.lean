/-
Reading the arguments of a command line.

Options stand before or among the other arguments of a command, and two dashes end
them.  A long option takes its value after an equals sign or from the next argument;
short ones can be written together, and the rest of the word after one that takes a
value is that value.  Options of the program itself come before the command.  A value is
taken as it is, also if it looks like an option.
-/
import TerminalConfig.Path

namespace TerminalConfig.CommandLine

/-- What a command line asks for. -/
inductive Command
  | version
  /-- Lists the entries of a settings file. -/
  | parse (path : Path) (asYaml : Bool)
  /-- Takes a value apart. -/
  | expand (value : String)
  /-- Renders a template with variables. -/
  | render (template : String) (bindings : List String)
  /-- Shows the settings of a file. -/
  | settings (config : Option Path) (strict : Bool) (title : Option String)
deriving DecidableEq, Repr

/-- What is wrong with a command line. -/
inductive UsageError
  | unknownOption (name : String)
  /-- An option that takes a value is the last argument. -/
  | valueExpected (name : String)
  /-- A flag was given a value. -/
  | valueRefused (name : String)
  | missingArgument (name : String)
  | extraArgument (argument : String)
  | unknownCommand (name : String)
  | missingCommand
deriving DecidableEq, Repr

/-- What the user is told. -/
def UsageError.message : UsageError → String
  | .unknownOption name => "No such option: " ++ name
  | .valueExpected name => "Option '" ++ name ++ "' requires an argument."
  | .valueRefused name => "Option '" ++ name ++ "' does not take a value."
  | .missingArgument name => "Missing argument '" ++ name ++ "'."
  | .extraArgument argument => "Got unexpected extra argument (" ++ argument ++ ")"
  | .unknownCommand name => "No such command '" ++ name ++ "'."
  | .missingCommand => "Missing command."

/-- An option that a command knows. -/
structure Switch where
  /-- The long name, without the two dashes before it. -/
  name : List Char
  /-- The letter that can stand after a single dash instead. -/
  letter : Option Char := none
  takesValue : Bool := false
deriving DecidableEq, Repr

/-- An option that was given, by its long name, and its value. -/
structure Given where
  name : List Char
  value : List Char := []
deriving DecidableEq, Repr

/-- Arguments that have been told apart. -/
structure Arguments where
  given : List Given := []
  /-- The arguments that are no options. -/
  plain : List String := []
deriving DecidableEq, Repr

namespace Arguments

/-- Adds options before the others. -/
def addOptions (a : Arguments) (options : List (Switch × List Char)) : Arguments :=
  { a with given := options.map (fun (switch, value) => ⟨switch.name, value⟩) ++ a.given }

/-- Adds an argument before the others. -/
def addPlain (a : Arguments) (argument : String) : Arguments :=
  { a with plain := argument :: a.plain }

/-- The latest value of an option. -/
def value? (a : Arguments) (name : String) : Option String :=
  ((a.given.filter (·.name == name.toList)).getLast?).map (String.ofList ·.value)

/-- All values of an option. -/
def values (a : Arguments) (name : String) : List String :=
  (a.given.filter (·.name == name.toList)).map (String.ofList ·.value)

/-- Whether a flag was given. -/
def has (a : Arguments) (name : String) : Bool :=
  a.given.any (·.name == name.toList)

end Arguments

/-- What a word of options asks for. -/
structure Word where
  /-- The options with their values. -/
  given : List (Switch × List Char) := []
  /-- An option that still needs a value, and its name as it is written. -/
  waiting : Option (Switch × String) := none

/-- Reads the letters after a single dash. -/
def readLetters (switches : List Switch) : List Char → Except UsageError Word
  | [] => .ok {}
  | c :: cs =>
    match switches.find? (·.letter == some c) with
    | none => .error (.unknownOption (String.ofList ['-', c]))
    | some switch =>
      if switch.takesValue then
        if cs.isEmpty then .ok { waiting := some (switch, String.ofList ['-', c]) }
        else .ok { given := [(switch, cs)] }
      else (readLetters switches cs).map fun word =>
        { word with given := (switch, []) :: word.given }

/-- Reads a long option, without its dashes. -/
def readLong (switches : List Switch) (cs : List Char) : Except UsageError Word :=
  let name := cs.takeWhile (· != '=')
  let written := String.ofList ('-' :: '-' :: name)
  match switches.find? (·.name == name), cs.drop name.length with
  | none, _ => .error (.unknownOption written)
  | some switch, [] =>
    .ok (if switch.takesValue then { waiting := some (switch, written) }
      else { given := [(switch, [])] })
  | some switch, _ :: value =>
    if switch.takesValue then .ok { given := [(switch, value)] }
    else .error (.valueRefused written)

/-- What a word of a command line can be. -/
inductive Shape
  /-- Two dashes, which end the options. -/
  | dashes
  /-- No option. -/
  | plain
  | options (word : Word)

/-- Reads a word.  A dash alone is no option. -/
def readWord (switches : List Switch) (word : String) : Except UsageError Shape :=
  match word.toList with
  | ['-', '-'] => .ok .dashes
  | '-' :: '-' :: name => (readLong switches name).map .options
  | '-' :: c :: letters => (readLetters switches (c :: letters)).map .options
  | _ => .ok .plain

/-- Tells options from other arguments.  If they are not `mixed`, the first argument
that is no option ends the options. -/
def tellApart (switches : List Switch) (mixed : Bool) :
    List String → Except UsageError Arguments
  | [] => .ok {}
  | argument :: rest =>
    match readWord switches argument with
    | .error error => .error error
    | .ok .dashes => .ok { plain := rest }
    | .ok .plain =>
      if mixed then (tellApart switches mixed rest).map (·.addPlain argument)
      else .ok { plain := argument :: rest }
    | .ok (.options ⟨given, none⟩) =>
      (tellApart switches mixed rest).map (·.addOptions given)
    | .ok (.options ⟨given, some (switch, written)⟩) =>
      match rest with
      | [] => .error (.valueExpected written)
      | value :: more =>
        (tellApart switches mixed more).map fun a =>
          (a.addOptions [(switch, value.toList)]).addOptions given

/-- The single argument of a command. -/
def single (name : String) : List String → Except UsageError String
  | [] => .error (.missingArgument name)
  | [argument] => .ok argument
  | _ :: extra :: _ => .error (.extraArgument extra)

/-- Reads the arguments of a command. -/
def readCommand (name : String) (arguments : List String) : Except UsageError Command := do
  match name with
  | "parse" =>
    let a ← tellApart [{ name := "yaml".toList }] true arguments
    return .parse (Path.ofText (← single "PATH" a.plain)) (a.has "yaml")
  | "expand" =>
    let a ← tellApart [] true arguments
    return .expand (← single "VALUE" a.plain)
  | "render" =>
    let a ← tellApart [{ name := "var".toList, letter := some 'V', takesValue := true }] true
      arguments
    return .render (← single "TEMPLATE" a.plain) (a.values "var")
  | "settings" =>
    let a ← tellApart
      [{ name := "config".toList, letter := some 'c', takesValue := true },
       { name := "strict".toList }, { name := "title".toList, takesValue := true }]
      true arguments
    match a.plain with
    | [] =>
      return .settings ((a.value? "config").map Path.ofText) (a.has "strict") (a.value? "title")
    | extra :: _ => throw (.extraArgument extra)
  | _ => throw (.unknownCommand name)

/-- The options of the program itself. -/
def programSwitches : List Switch :=
  [{ name := "verbose".toList, letter := some 'v' }, { name := "version".toList }]

/-- Whether a word looks like an option. -/
def looksLikeOption (word : String) : Bool :=
  word.toList.head? == some '-' && word != "-"

/-- Reads a command line.  The version is asked for before a command is looked at, and
also by an option that stands in the place of the command. -/
def readArguments (arguments : List String) : Except UsageError Command := do
  let a ← tellApart programSwitches false arguments
  if a.has "version" then return .version
  match a.plain with
  | [] => throw .missingCommand
  | name :: rest =>
    if looksLikeOption name then
      let again ← tellApart programSwitches false a.plain
      if again.has "version" then return .version
    readCommand name rest

end TerminalConfig.CommandLine
