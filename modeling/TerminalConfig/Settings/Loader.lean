/-
Applying the entries of a settings text to settings.

An entry changes one setting or none.  If its value does not suit the setting, nothing
changes and there is a complaint.  What is odd about the spelling of a list is
complained of as well, before that, and does not keep the value from being used.
-/
import TerminalConfig.Settings.Basic
import TerminalConfig.Settings.Diagnostic
import TerminalConfig.Settings.Key
import TerminalConfig.Lexer.Source
import TerminalConfig.Lexer.Basic
import TerminalConfig.Number.Numeral

namespace TerminalConfig

open Text

/-! ### Values -/

/-- Reads a number that is at least `minimum`. -/
def readNumber (minimum : Nat) (text : String) : Except Misfit Int :=
  match readInteger (trimmed text) with
  | .error _ => .error .notNumber
  | .ok n => if n < minimum then .error (.belowMinimum minimum) else .ok n

/-- Reads a number that is at least 0 and takes a larger one than `maximum` for it. -/
def readClamped (maximum : Nat) (text : String) : Except Misfit Int :=
  (readNumber 0 text).map (min · maximum)

/-- Reads the name or the place of a built-in colorscheme. -/
def readScheme (text : String) : Except Misfit Int :=
  match Colorscheme.indexOf? (lowered (trimmed text)) with
  | some index => .ok index
  | none => readClamped (Colorscheme.presets.length - 1) text

/-- Reads a color. -/
def readRgb (text : String) : Except Misfit Rgb :=
  (Rgb.ofText text).mapError .color

/-- Reads a color that may have an opacity. -/
def readRgba (text : String) : Except Misfit Rgba :=
  (Rgba.ofText text).mapError .color

/-- The font families of a list. -/
def readFonts (elements : List String) : Except Misfit (List String) :=
  match (elements.map trimmed).filter (· != "") with
  | [] => .error .noFont
  | fonts => .ok fonts

/-- Whether a flag is set.  A bare flag is. -/
def readFlag : Option String → Option Bool
  | none => some true
  | some value =>
    match lowered (trimmed value) with
    | "true" => some true
    | "false" => some false
    | _ => none

namespace Settings

/-! ### One setting -/

/-- Sets a flag. -/
def setFlag (s : Settings) : Key → Settings
  | .xorgOnly => { s with x11IsDefault := true }
  | .noDynamicTitle => { s with dynamicTitle := false }
  | .highlightChangesForeground => { s with highlightChangesForeground := true }
  | .noFlash => { s with noFlash := true }
  | _ => s

/-- Sets a setting that has a single value. -/
def setScalar (s : Settings) (key : Key) (text : String) : Except Misfit Settings :=
  match key with
  | .term => .ok { s with term := text }
  | .title => .ok { s with title := text }
  | .titleFormat => .ok { s with titleFormat := text }
  | .locale => .ok { s with locale := some text }
  | .rows => (readNumber 1 text).map fun n => { s with rows := n }
  | .columns => (readNumber 1 text).map fun n => { s with columns := n }
  | .fontSize => (readNumber 1 text).map fun n => { s with fontSize := n }
  | .dpi => (readNumber 1 text).map fun n => { s with dpi := n }
  | .scrollLines => (readClamped 255 text).map fun n => { s with scrollLines := n }
  | .colorscheme => (readScheme text).map fun n => { s with schemeIndex := n }
  | .background => (readRgba text).map fun c => { s with background := some c }
  | .foreground => (readRgb text).map fun c => { s with foreground := some c }
  | .dimForeground => (readRgb text).map fun c => { s with dimForeground := c }
  | .highlightBackground => (readRgba text).map fun c => { s with highlightBackground := c }
  | .highlightForeground => (readRgb text).map fun c => { s with highlightForeground := c }
  | .color index =>
    (readRgb text).map fun c => { s with overrides := s.overrides.insert index.val c }
  | _ => .ok s

/-- The settings after an attempt to set one of them, and a complaint if it failed.  The
complaint quotes the value as `shown`. -/
def orComplaint (s : Settings) (key : Key) (shown : String) :
    Except Misfit Settings → Settings × List Complaint
  | .ok changed => (changed, [])
  | .error misfit => (s, [.invalidValue ⟨key.name, some shown, misfit⟩])

/-- Sets a setting that takes a value. -/
def setValue (s : Settings) (key : Key) (value : String) : Settings × List Complaint :=
  if key = .configFile then (s, [])
  else
    let expansion := ListValue.expand value
    let (changed, complaints) :=
      if key = .font then
        s.orComplaint key value
          ((readFonts expansion.elements).map fun fonts => { s with fonts := fonts })
      else if expansion.others ≠ [] then s.orComplaint key value (.error .list)
      else s.orComplaint key expansion.first (s.setScalar key expansion.first)
    (changed, expansion.problems.map .listProblem ++ complaints)

/-- The settings after an entry, and what is wrong with it. -/
def enter (s : Settings) (name : String) (value : Option String) :
    Settings × List Complaint :=
  match Key.named? name with
  | none => (s, [.unknownSetting name])
  | some key =>
    if key.isFlag then
      match readFlag value with
      | some true => (s.setFlag key, [])
      | some false => (s, [])
      | none => (s, [.badFlag name (value.getD "")])
    else
      match value with
      | none => (s, [.missingValue name])
      | some text => s.setValue key text

end Settings

/-! ### A whole text -/

/-- Settings, and what was wrong with the entries that led to them. -/
structure Loader where
  settings : Settings := {}
  diagnostics : List Diagnostic := []
deriving DecidableEq, Repr

namespace Loader

/-- Adds complaints about a line. -/
def report (l : Loader) (line : Int) (complaints : List Complaint) : Loader :=
  { l with diagnostics := l.diagnostics ++ complaints.map (⟨line, ·⟩) }

/-- Applies an entry. -/
def apply (l : Loader) (name : String) (value : Option String) (line : Int) : Loader :=
  let (settings, complaints) := l.settings.enter name value
  { l with settings := settings }.report line complaints

/-- Takes note of what was seen in a settings text. -/
def observe (l : Loader) : Event → Loader
  | .entry entry => l.apply entry.key entry.value entry.line
  | .problem problem => l.report problem.line [.syntaxError problem.error]

/-- Applies the entries of a settings text, in its order. -/
def load (l : Loader) (source : Source) : Loader :=
  (readSettings .listen source.contents).events.foldl observe l

end Loader

end TerminalConfig
