/-
The program.

It looks up the two variables of the environment, reads the one file that the command
needs, and leaves all else to the command.
-/
import TerminalConfig.CommandLine.Run

open TerminalConfig TerminalConfig.CommandLine

/-- The octets of a file, if there is one. -/
def readOctets (path : Path) : IO (Option (List UInt8)) := do
  try
    return some (← IO.FS.readBinFile path.text).toList
  catch _ =>
    return none

/-- The world as far as a command needs it. -/
def lookAround (command : Command) : IO World := do
  let config ← IO.getEnv "XDG_CONFIG_HOME"
  let home ← IO.getEnv "HOME"
  let environment := fun name =>
    if name = "XDG_CONFIG_HOME" then config else if name = "HOME" then home else none
  match fileOf ⟨environment, fun _ => none⟩ command with
  | none => return ⟨environment, fun _ => none⟩
  | some path =>
    let contents ← readOctets path
    return ⟨environment, fun asked => if asked = path then contents else none⟩

def main (arguments : List String) : IO UInt32 := do
  match readArguments arguments with
  | .error error =>
    IO.eprintln ("Error: " ++ error.message)
    return 2
  | .ok command =>
    let outcome := run (← lookAround command) command
    IO.print outcome.output
    IO.eprint outcome.errors
    if let some message := outcome.crash then
      IO.eprintln ("Unexpected error: " ++ message)
    return UInt32.ofNat (outcome.exitCode % 256).toNat
