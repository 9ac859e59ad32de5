/-
Carrying out a command.

A command gives an exit code and texts for the standard output and the standard error
stream.  What is said about problems goes to the latter, and what was asked for
goes to the former even if there are problems.

Texts that are the answer itself are given as they are, save that color sequences are
left out.  Reports are marked up and go through the markup, and so do keys and paths in
them.
-/
import TerminalConfig.CommandLine.Arguments
import TerminalConfig.Report.Markup
import TerminalConfig.Report.Table
import TerminalConfig.Report.Yaml
import TerminalConfig.Settings.File
import TerminalConfig.Title
import TerminalConfig.Variable.Binding

namespace TerminalConfig.CommandLine

open Report

/-- The version of the program. -/
def versionText : String := "termcfg 0.1.0"

/-- What a command comes to. -/
structure Outcome where
  exitCode : Int := 0
  output : String := ""
  errors : String := ""
  /-- Why the command was cut short, by something that is no failure of its own. -/
  crash : Option String := none
deriving Repr

namespace Outcome

/-- Adds a text to the output. -/
def say (o : Outcome) (text : String) : Outcome :=
  { o with output := o.output ++ text }

/-- Cuts the command short. -/
def stop (o : Outcome) (message : String) : Outcome :=
  { o with exitCode := 1, crash := some message }

end Outcome

/-! ### Texts -/

/-- What follows a color sequence, after the escape character and the bracket. -/
def afterColor? : List Char → Option (List Char)
  | [] => none
  | c :: cs =>
    if c.isDigit || c == ';' || c == '?' then afterColor? cs
    else if c.isAlpha then some cs
    else none

theorem length_afterColor? {cs rest : List Char} (h : afterColor? cs = some rest) :
    rest.length < cs.length := by
  fun_induction afterColor? cs generalizing rest <;> simp_all
  all_goals grind

/-- A text without its color sequences. -/
def withoutColors : List Char → List Char
  | [] => []
  | [c] => [c]
  | c :: d :: cs =>
    if c.toNat == 0x1B && d == '[' then
      match hcut : afterColor? cs with
      | some rest =>
        have := length_afterColor? hcut
        withoutColors rest
      | none => c :: withoutColors (d :: cs)
    else c :: withoutColors (d :: cs)
termination_by cs => cs.length

/-- A text as it is given out. -/
def echoed (text : String) : String :=
  String.ofList (withoutColors text.toList)

/-- The lines that markup shows, with spaces for tabs. -/
def reportLines? (markup : String) : Option (List String) :=
  (Markup.shown? markup).map fun text => (lines text).map String.ofList

/-- Lines, each ended. -/
def ended (lines : List String) : String :=
  String.join (lines.map (· ++ "\n"))

/-- Adds lines of markup to the output. -/
def Outcome.print (o : Outcome) (markup : String) (go : Outcome → Outcome) : Outcome :=
  match reportLines? markup with
  | some lines => go (o.say (ended lines))
  | none => o.stop "markup that does not fit"

/-- Adds lines of markup to what is said about problems. -/
def Outcome.warn (o : Outcome) (markups : List String) : Outcome :=
  match markups.mapM reportLines? with
  | some lines => { o with errors := o.errors ++ ended lines.flatten }
  | none => o.stop "markup that does not fit"

/-- A failure. -/
def Outcome.ofFailure (f : Failure) : Outcome :=
  { exitCode := f.exitCode, errors := echoed (f.report ++ "\n") }

/-! ### Commands -/

/-- Takes a value apart, an element on each line. -/
def runExpand (value : String) : Outcome :=
  let expansion := ListValue.expand value
  ({ output := echoed (ended expansion.elements) } : Outcome).warn
    (expansion.problems.map fun p => "warning: " ++ Markup.escape p.message)

/-- Reads the bindings of variables. -/
def readBindings (bindings : List String) : Except Failure (List Variable) :=
  bindings.mapM fun binding =>
    (Variable.ofBinding binding).mapError fun error =>
      .stated ("bad variable " ++ Text.quoted binding ++ ": " ++ error.message) 1

/-- Renders a template. -/
def runRender (template : String) (bindings : List String) : Outcome :=
  match readBindings bindings with
  | .error failure => .ofFailure failure
  | .ok vars =>
    match interpolate template (Scope.ofVariables vars) with
    | .error error => ({} : Outcome).stop error.message
    | .ok rendering =>
      let shown : Outcome := { output := echoed (rendering.text ++ "\n") }
      match rendering.fault with
      | none => shown
      | some fault =>
        { shown with exitCode := 1 }.warn ["template error: " ++ Markup.escape fault.message]

/-- The table of entries. -/
def entryTable? (entries : List Entry) : Option Table := do
  let rows ← entries.mapM fun e => do
    let key ← Markup.shown? e.key
    let value ← match e.value with
      | none => some "(flag)"
      | some value => Markup.shown? (Markup.escape (Text.quoted value))
    return [toString e.line, key, value]
  return ⟨[{ heading := "Line", rightAligned := true }, { heading := "Key" },
    { heading := "Value" }], rows⟩

/-- Lists the entries of a settings file, and its problems. -/
def runParse (world : World) (path : Path) (asYaml : Bool) : Outcome :=
  match world.contents path with
  | none => .ofFailure (.configNotFound path)
  | some contents =>
    let reading := readSettings .listen (Source.file contents).contents
    let listed : Option String :=
      if asYaml then some (echoed (Yaml.document reading.entries))
      else (entryTable? reading.entries).map fun table => ended table.render
    match listed with
    | none => ({} : Outcome).stop "markup that does not fit"
    | some text =>
      let outcome : Outcome :=
        { exitCode := if reading.problems.isEmpty then 0 else 1, output := text }
      outcome.warn (reading.problems.map fun p =>
        "[red]" ++ path.text ++ ":" ++ toString p.line ++ ":[/red] " ++
          Markup.escape p.error.message)

/-- The table of settings. -/
def settingsTable? (s : Settings) : Option Table := do
  let scheme := s.scheme
  let rows ←
    [("term", s.term), ("title", s.title), ("title-format", s.titleFormat),
     ("dynamic title", if s.dynamicTitle then "True" else "False"),
     ("size", toString s.columns ++ "x" ++ toString s.rows),
     ("font", String.intercalate ", " s.fonts),
     ("font-size", toString s.fontSize ++ " @ " ++ toString s.dpi ++ " dpi"),
     ("colorscheme", scheme.name), ("background", s.shownBackground.text),
     ("foreground", s.shownForeground.text),
     ("palette", String.intercalate " " (scheme.colors.map Rgb.text)),
     ("scroll-lines", toString s.scrollLines)].mapM fun (name, value) => do
      return [name, ← Markup.shown? (Markup.escape value)]
  return ⟨[{ heading := "Setting" }, { heading := "Value" }], rows⟩

/-- What is wrong with the numbers or the template of a title. -/
def titleMessage : TitleError → String
  | .badVariable error => error.message
  | .badNumeral error => error.message

/-- Shows settings, the window title and the number of problems. -/
def runSettings (world : World) (config : Option Path) (strict : Bool)
    (title : Option String) : Outcome :=
  match loadConfig world config strict with
  | .error failure => .ofFailure failure
  | .ok loaded =>
    let s := loaded.loader.settings
    let source := match loaded.path with
      | some path => Markup.escape path.text
      | none => "(defaults)"
    ({} : Outcome).print ("Config: " ++ source) fun o =>
      match settingsTable? s with
      | none => o.stop "markup that does not fit"
      | some table =>
        let o := o.say (ended table.render)
        match renderTitle s title with
        | .error error => o.stop (titleMessage error)
        | .ok rendering =>
          o.print ("Window title: " ++ Markup.escape (Text.quoted rendering.text)) fun o =>
            match loaded.loader.diagnostics with
            | [] => o
            | problems =>
              o.say (toString problems.length ++ " problem(s) in config\n")

/-- Carries out a command. -/
def run (world : World) : Command → Outcome
  | .version => { output := versionText ++ "\n" }
  | .parse path asYaml => runParse world path asYaml
  | .expand value => runExpand value
  | .render template bindings => runRender template bindings
  | .settings config strict title => runSettings world config strict title

/-- The file that a command reads, if it reads one. -/
def fileOf (world : World) : Command → Option Path
  | .parse path _ => some path
  | .settings config _ _ => findConfig world config
  | _ => none

end TerminalConfig.CommandLine
