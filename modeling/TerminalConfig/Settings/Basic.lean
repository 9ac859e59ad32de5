/-
The settings of a terminal.

A color that is not set is taken from the colorscheme, and colors of the scheme can be
replaced one by one.  The replacements are kept in the order of their places, so that
two settings with the same replacements are equal.
-/
import TerminalConfig.Color.Scheme
import TerminalConfig.Path

namespace TerminalConfig

/-- Colors that replace those of a scheme, by their place. -/
structure Overrides where
  entries : List (Int × Rgb) := []
  /-- The places ascend, so no place has two colors. -/
  ascending : entries.Pairwise (·.1 < ·.1) := by simp
deriving DecidableEq, Repr

namespace Overrides

/-- No color is replaced. -/
def empty : Overrides := {}

/-- `entries` with a color put at a place. -/
def put (index : Int) (color : Rgb) : List (Int × Rgb) → List (Int × Rgb)
  | [] => [(index, color)]
  | (i, c) :: rest =>
    if index < i then (index, color) :: (i, c) :: rest
    else if index = i then (index, color) :: rest
    else (i, c) :: put index color rest

/-- A color is put at its place, and all others stay. -/
theorem mem_put {index : Int} {color : Rgb} {entries : List (Int × Rgb)} {e : Int × Rgb}
    (h : e ∈ put index color entries) : e = (index, color) ∨ e ∈ entries := by
  fun_induction put index color entries <;> grind

/-- Putting a color keeps the places ascending. -/
theorem put_ascending {index : Int} {color : Rgb} {entries : List (Int × Rgb)}
    (h : entries.Pairwise (·.1 < ·.1)) : (put index color entries).Pairwise (·.1 < ·.1) := by
  fun_induction put index color entries with
  | case1 => simp
  | case2 i c rest hlt =>
    refine List.pairwise_cons.2 ⟨fun e he => ?_, h⟩
    rcases List.mem_cons.1 he with rfl | he
    · exact hlt
    · exact Int.lt_trans hlt ((List.pairwise_cons.1 h).1 e he)
  | case3 c rest _ =>
    exact List.pairwise_cons.2 (List.pairwise_cons.1 h)
  | case4 i c rest hlt hne ih =>
    obtain ⟨hfirst, hrest⟩ := List.pairwise_cons.1 h
    refine List.pairwise_cons.2 ⟨fun e he => ?_, ih hrest⟩
    rcases mem_put he with rfl | he
    · show i < index
      omega
    · exact hfirst e he

/-- Replaces the color at a place. -/
def insert (o : Overrides) (index : Int) (color : Rgb) : Overrides :=
  ⟨put index color o.entries, put_ascending o.ascending⟩

/-- The color that replaces the one at a place. -/
def find? (o : Overrides) (index : Int) : Option Rgb :=
  o.entries.lookup index

end Overrides

/-- The settings of a terminal. -/
structure Settings where
  /-- The file that the settings were read from. -/
  configPath : Option Path := none
  /-- X11 is preferred over Wayland. -/
  x11IsDefault : Bool := false
  term : String := "xterm-256color"
  locale : Option String := none
  /-- The title of the application. -/
  title : String := "Wayst"
  /-- Programs may set the window title. -/
  dynamicTitle : Bool := true
  /-- The template of the window title. -/
  titleFormat : String := "\x7b?has_title:\x7btitle\x7d - \x7d\x7bapp_title\x7d"
  rows : Int := 24
  columns : Int := 80
  /-- Font families, the primary one first. -/
  fonts : List String := ["Noto Sans Mono", "FontAwesome", "NotoColorEmoji"]
  fontSize : Int := 10
  dpi : Int := 96
  /-- The background, if it is not the scheme's. -/
  background : Option Rgba := none
  highlightBackground : Rgba := ⟨50, 50, 50, 240⟩
  /-- The foreground, if it is not the scheme's. -/
  foreground : Option Rgb := none
  highlightForeground : Rgb := ⟨255, 255, 255⟩
  dimForeground : Rgb := ⟨150, 150, 150⟩
  highlightChangesForeground : Bool := false
  /-- The place of the scheme among the built-in ones. -/
  schemeIndex : Int := 0
  overrides : Overrides := .empty
  noFlash : Bool := false
  scrollLines : Int := 3
deriving DecidableEq, Repr

namespace Settings

/-- The color of a scheme at a place, unless it is replaced. -/
def colorAt (s : Settings) (index : Nat) (color : Rgb) : Rgb :=
  (s.overrides.find? index).getD color

/-- The colorscheme with the replacements. -/
def scheme (s : Settings) : Colorscheme :=
  let base := Colorscheme.atIndex s.schemeIndex
  { base with colors := base.colors.mapIdx s.colorAt }

/-- The background that is shown. -/
def shownBackground (s : Settings) : Rgba :=
  s.background.getD s.scheme.background

/-- The foreground that is shown. -/
def shownForeground (s : Settings) : Rgb :=
  s.foreground.getD s.scheme.foreground

end Settings

end TerminalConfig
