/-
Finding and reading the settings file.

The file is the one that is asked for, or else the one in the configuration directory of
the user, which two variables of the environment can name.  It is no failure if the
latter does not exist.

What the world holds is given as two functions, one for the environment and one for
files, and nothing here looks at the world itself.
-/
import TerminalConfig.Settings.Loader
import TerminalConfig.Failure

namespace TerminalConfig

/-- What can be known of the world. -/
structure World where
  /-- A variable of the environment. -/
  environment : String → Option String
  /-- The contents of a file; nothing if there is no file at the path. -/
  contents : Path → Option (List UInt8)

namespace World

/-- A variable of the environment that is not empty. -/
def directory? (world : World) (name : String) : Option Path :=
  match world.environment name with
  | none => none
  | some value => if value = "" then none else some (Path.ofText value)

end World

/-- The message when no configuration directory is known. -/
def noDirectoryWarning : String := "Could not find config directory"

/-- Where the settings file is, if a configuration directory is known. -/
def findConfig (world : World) (asked : Option Path) : Option Path :=
  match asked with
  | some path => some path
  | none =>
    match world.directory? "XDG_CONFIG_HOME" with
    | some path => some (path.join ["wayst", "config"])
    | none => (world.directory? "HOME").map (·.join [".config", "wayst", "config"])

/-- Settings that have been loaded, and the file they came from. -/
structure Loaded where
  loader : Loader
  path : Option Path
  /-- A configuration directory was looked for and not found. -/
  noDirectory : Bool
deriving DecidableEq, Repr

/-- What the log says of the loading. -/
def Loaded.warnings (l : Loaded) : List String :=
  (if l.noDirectory then [noDirectoryWarning] else []) ++
    l.loader.diagnostics.map Diagnostic.text

/-- Loads the settings file.  If it is strict, problems are a failure. -/
def loadConfig (world : World) (asked : Option Path) (strict : Bool) : Except Failure Loaded :=
  match findConfig world asked with
  | none => .ok ⟨{}, none, true⟩
  | some path =>
    match world.contents path with
    | none => if asked.isSome then .error (.configNotFound path) else .ok ⟨{}, none, false⟩
    | some contents =>
      let loader := ({} : Loader).load (.file contents)
      if strict && !loader.diagnostics.isEmpty then .error (.problems loader.diagnostics)
      else
        .ok ⟨{ loader with settings := { loader.settings with configPath := some path } },
          some path, false⟩

end TerminalConfig
