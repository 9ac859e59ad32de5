/-
The keys that a settings text may use.

Every key is also an option of the terminal's command line and is described as one.  An
option either takes a value or is a flag.  The two options that choose the settings text
itself are allowed in it and mean nothing there.
-/
namespace TerminalConfig

/-- A setting. -/
inductive Key
  | configFile
  | skipConfig
  | xorgOnly
  | term
  | title
  | noDynamicTitle
  | titleFormat
  | locale
  | rows
  | columns
  | background
  | foreground
  /-- One of the sixteen colors of the scheme. -/
  | color (index : Fin 16)
  | dimForeground
  | highlightBackground
  | highlightForeground
  | highlightChangesForeground
  | noFlash
  | colorscheme
  | font
  | fontSize
  | dpi
  | scrollLines
deriving DecidableEq, Repr

namespace Key

/-- All keys, in the order in which they are listed. -/
def all : List Key :=
  [.configFile, .skipConfig, .xorgOnly, .term, .title, .noDynamicTitle, .titleFormat, .locale,
   .rows, .columns, .background, .foreground] ++
  (List.finRange 16).map .color ++
  [.dimForeground, .highlightBackground, .highlightForeground, .highlightChangesForeground,
   .noFlash, .colorscheme, .font, .fontSize, .dpi, .scrollLines]

/-- The key as it is written. -/
def name : Key → String
  | .configFile => "config-file"
  | .skipConfig => "skip-config"
  | .xorgOnly => "xorg-only"
  | .term => "term"
  | .title => "title"
  | .noDynamicTitle => "no-dynamic-title"
  | .titleFormat => "title-format"
  | .locale => "locale"
  | .rows => "rows"
  | .columns => "columns"
  | .background => "bg-color"
  | .foreground => "fg-color"
  | .color index => "color-" ++ toString index.val
  | .dimForeground => "fg-color-dim"
  | .highlightBackground => "h-bg-color"
  | .highlightForeground => "h-fg-color"
  | .highlightChangesForeground => "h-change-fg"
  | .noFlash => "no-flash"
  | .colorscheme => "colorscheme"
  | .font => "font"
  | .fontSize => "font-size"
  | .dpi => "dpi"
  | .scrollLines => "scroll-lines"

/-- The key that is written like this. -/
def named? (written : String) : Option Key :=
  all.find? (·.name == written)

/-- Whether the key is a flag. -/
def isFlag : Key → Bool
  | .skipConfig => true
  | .xorgOnly => true
  | .noDynamicTitle => true
  | .highlightChangesForeground => true
  | .noFlash => true
  | _ => false

/-- What stands for the value in a description, for keys that take one. -/
def metavar : Key → Option String
  | .configFile => some "path"
  | .term => some "string"
  | .title => some "string"
  | .titleFormat => some "string"
  | .locale => some "string"
  | .rows => some "number"
  | .columns => some "number"
  | .background => some "#RRGGBBAA"
  | .foreground => some "#RRGGBB"
  | .color _ => some "#RRGGBB"
  | .dimForeground => some "#RRGGBB"
  | .highlightBackground => some "#RRGGBBAA"
  | .highlightForeground => some "#RRGGBB"
  | .colorscheme => some "name"
  | .font => some "name"
  | .fontSize => some "number"
  | .dpi => some "number"
  | .scrollLines => some "number"
  | _ => none

/-- The names of the eight normal colors. -/
def colorNames : List String :=
  ["black", "red", "green", "yellow", "blue", "magenta", "cyan", "grey"]

/-- What one of the sixteen colors is called. -/
def colorName (index : Fin 16) : String :=
  (if index.val < 8 then "" else "bright ") ++ colorNames.getD (index.val % 8) ""

/-- What the key is for.  The names of the colorschemes are part of one description. -/
def description (schemes : List String) : Key → String
  | .configFile => "use configuration file"
  | .skipConfig => "skip default configuration file"
  | .xorgOnly => "always use X11"
  | .term => "TERM value"
  | .title => "window title and application class name"
  | .noDynamicTitle => "don't allow programs to change window title"
  | .titleFormat => "window title format string"
  | .locale => "override locale"
  | .rows => "number of rows"
  | .columns => "number of columns"
  | .background => "background color"
  | .foreground => "foreground color"
  | .color index => "palette color " ++ colorName index
  | .dimForeground => "dim/faint text color"
  | .highlightBackground => "highlighted text background color"
  | .highlightForeground => "highlighted text foreground color"
  | .highlightChangesForeground => "highligting text changes foreground color"
  | .noFlash => "disable visual flash"
  | .colorscheme => "colorscheme preset: " ++ String.intercalate ", " schemes
  | .font => "font family, a list adds fallback fonts"
  | .fontSize => "font size"
  | .dpi => "dpi"
  | .scrollLines => "lines scrolled per wheel click"

end Key

end TerminalConfig
