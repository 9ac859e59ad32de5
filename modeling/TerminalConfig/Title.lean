/-
The window title.

The title is a template over the settings and the title that the running program has
set, which counts only if the settings allow it.  The numbers of the settings have to
fit the variables they become, and this is looked at only if the template has a
placeholder.  A template that seems to have none is rendered without variables, and its
fault, should there be one, is not told.
-/
import TerminalConfig.Settings.Basic
import TerminalConfig.Template.Basic

namespace TerminalConfig

/-- Why a title cannot be rendered. -/
inductive TitleError
  | badVariable (error : VariableError)
  | badNumeral (error : NumeralError)
deriving DecidableEq, Repr

/-- The title of the running program, as far as it counts. -/
def Settings.countedTitle (s : Settings) (programTitle : Option String) : String :=
  if s.dynamicTitle then programTitle.getD "" else ""

/-- The variables that a title may use. -/
def titleVariables (s : Settings) (programTitle : Option String) :
    Except VariableError (List Variable) := do
  let title := s.countedTitle programTitle
  let number (name : String) (n : Int) := Variable.make name .uint32 (.integer n)
  return [⟨"app_title", .text s.title⟩, ⟨"title", .text title⟩,
    ⟨"has_title", .boolean (title != "")⟩, ← number "rows" s.rows, ← number "cols" s.columns,
    ← number "font_size" s.fontSize, ← number "dpi" s.dpi]

/-- Renders the window title. -/
def renderTitle (s : Settings) (programTitle : Option String) : Except TitleError Rendering :=
  if needsInterpolation s.titleFormat then
    match titleVariables s programTitle with
    | .error error => .error (.badVariable error)
    | .ok vars =>
      (interpolate s.titleFormat (Scope.ofVariables vars)).mapError .badNumeral
  else ((interpolate s.titleFormat {}).mapError .badNumeral).map fun r => { r with fault := none }

/-- What the log says of a title. -/
def titleWarnings (title : Rendering) : List String :=
  title.fault.toList.map fun fault => "title-format: " ++ fault.message

end TerminalConfig
