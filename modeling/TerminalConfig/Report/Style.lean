/-
The names of styles in markup.

A style is named by words: effects, any of which can be negated, a color, a color
behind the text, and a link.  A closing tag has to name the style that it closes but
need not use the same words for it, so names are compared in a normal form.  A name that
describes no style stands for itself, whatever its case.
-/
import TerminalConfig.Text.DecimalDigit
import TerminalConfig.Text.HexDigit
import TerminalConfig.Text.Lowercase
import TerminalConfig.Text.Whitespace

namespace TerminalConfig.Report

open Text

/-- What a style can do with a text, colors apart. -/
inductive Effect
  | bold
  | dim
  | italic
  | underline
  | blink
  | fastBlink
  | reverse
  | conceal
  | strike
  | doubleUnderline
  | frame
  | encircle
  | overline
deriving DecidableEq, Repr

namespace Effect

/-- All effects, in the order in which a normal form has them. -/
def all : List Effect :=
  [.bold, .dim, .italic, .underline, .blink, .fastBlink, .reverse, .conceal, .strike,
   .doubleUnderline, .frame, .encircle, .overline]

/-- The word for an effect. -/
def word : Effect → String
  | .bold => "bold"
  | .dim => "dim"
  | .italic => "italic"
  | .underline => "underline"
  | .blink => "blink"
  | .fastBlink => "blink2"
  | .reverse => "reverse"
  | .conceal => "conceal"
  | .strike => "strike"
  | .doubleUnderline => "underline2"
  | .frame => "frame"
  | .encircle => "encircle"
  | .overline => "overline"

/-- The effect that a short word stands for. -/
def ofShort? : String → Option Effect
  | "d" => some .dim
  | "b" => some .bold
  | "i" => some .italic
  | "u" => some .underline
  | "r" => some .reverse
  | "c" => some .conceal
  | "s" => some .strike
  | "uu" => some .doubleUnderline
  | "o" => some .overline
  | _ => none

/-- The effect that a word stands for. -/
def ofWord? (word : String) : Option Effect :=
  (all.find? (·.word == word)).or (ofShort? word)

end Effect

/-! ### Colors -/

/-- The names of colors. -/
def colorNames : List String :=
  ["default", "black", "red", "green", "yellow", "blue", "magenta", "cyan", "white",
   "bright_black", "bright_red", "bright_green", "bright_yellow", "bright_blue",
   "bright_magenta", "bright_cyan", "bright_white", "grey0", "gray0", "navy_blue",
   "dark_blue", "blue3", "blue1", "dark_green", "deep_sky_blue4", "dodger_blue3",
   "dodger_blue2", "green4", "spring_green4", "turquoise4", "deep_sky_blue3",
   "dodger_blue1", "green3", "spring_green3", "dark_cyan", "light_sea_green",
   "deep_sky_blue2", "deep_sky_blue1", "spring_green2", "cyan3", "dark_turquoise",
   "turquoise2", "green1", "spring_green1", "medium_spring_green", "cyan2", "cyan1",
   "dark_red", "deep_pink4", "purple4", "purple3", "blue_violet", "orange4", "grey37",
   "gray37", "medium_purple4", "slate_blue3", "royal_blue1", "chartreuse4",
   "dark_sea_green4", "pale_turquoise4", "steel_blue", "steel_blue3", "cornflower_blue",
   "chartreuse3", "cadet_blue", "sky_blue3", "steel_blue1", "pale_green3", "sea_green3",
   "aquamarine3", "medium_turquoise", "chartreuse2", "sea_green2", "sea_green1",
   "aquamarine1", "dark_slate_gray2", "dark_magenta", "dark_violet", "purple",
   "light_pink4", "plum4", "medium_purple3", "slate_blue1", "yellow4", "wheat4",
   "grey53", "gray53", "light_slate_grey", "light_slate_gray", "medium_purple",
   "light_slate_blue", "dark_olive_green3", "dark_sea_green", "light_sky_blue3",
   "sky_blue2", "dark_sea_green3", "dark_slate_gray3", "sky_blue1", "chartreuse1",
   "light_green", "pale_green1", "dark_slate_gray1", "red3", "medium_violet_red",
   "magenta3", "dark_orange3", "indian_red", "hot_pink3", "medium_orchid3",
   "medium_orchid", "medium_purple2", "dark_goldenrod", "light_salmon3", "rosy_brown",
   "grey63", "gray63", "medium_purple1", "gold3", "dark_khaki", "navajo_white3",
   "grey69", "gray69", "light_steel_blue3", "light_steel_blue", "yellow3",
   "dark_sea_green2", "light_cyan3", "light_sky_blue1", "green_yellow",
   "dark_olive_green2", "dark_sea_green1", "pale_turquoise1", "deep_pink3", "magenta2",
   "hot_pink2", "orchid", "medium_orchid1", "orange3", "light_pink3", "pink3", "plum3",
   "violet", "light_goldenrod3", "tan", "misty_rose3", "thistle3", "plum2", "khaki3",
   "light_goldenrod2", "light_yellow3", "grey84", "gray84", "light_steel_blue1",
   "yellow2", "dark_olive_green1", "honeydew2", "light_cyan1", "red1", "deep_pink2",
   "deep_pink1", "magenta1", "orange_red1", "indian_red1", "hot_pink", "dark_orange",
   "salmon1", "light_coral", "pale_violet_red1", "orchid2", "orchid1", "orange1",
   "sandy_brown", "light_salmon1", "light_pink1", "pink1", "plum1", "gold1",
   "navajo_white1", "misty_rose1", "thistle1", "yellow1", "light_goldenrod1", "khaki1",
   "wheat1", "cornsilk1", "grey100", "gray100", "grey3", "gray3", "grey7", "gray7",
   "grey11", "gray11", "grey15", "gray15", "grey19", "gray19", "grey23", "gray23",
   "grey27", "gray27", "grey30", "gray30", "grey35", "gray35", "grey39", "gray39",
   "grey42", "gray42", "grey46", "gray46", "grey50", "gray50", "grey54", "gray54",
   "grey58", "gray58", "grey62", "gray62", "grey66", "gray66", "grey70", "gray70",
   "grey74", "gray74", "grey78", "gray78", "grey82", "gray82", "grey85", "gray85",
   "grey89", "gray89", "grey93", "gray93"]

/-- Whether characters are the decimal digits of a number up to 255. -/
def isChannel (cs : List Char) : Bool :=
  match cs.mapM decimalDigit? with
  | none => false
  | some digits => digits != [] && digits.foldl (fun n d => n * 10 + d) 0 ≤ 255

/-- What stands in parentheses after a word, if a text is nothing else. -/
def argument? (word : List Char) (cs : List Char) : Option (List Char) :=
  match (after? (word ++ ['(']) cs).map List.reverse with
  | some (')' :: inner) => some inner.reverse
  | _ => none

/-- Whether a word in small letters names a color: by its name, by its number, by a
hexadecimal code, or by its channels. -/
def isColor (cs : List Char) : Bool :=
  colorNames.contains (String.ofList cs) ||
    (match cs with
      | '#' :: digits => digits.length == 6 && digits.all fun c => (hexDigit? c).isSome
      | _ => false) ||
    ((argument? "color".toList cs).any fun number =>
      number.length ≤ 3 && number.all Char.isDigit && isChannel number) ||
    ((argument? "rgb".toList cs).any fun inner =>
      let channels := splitAtEach ',' inner
      channels.length == 3 && channels.all isChannel)

/-! ### Styles -/

/-- What a name describes. -/
structure Style where
  /-- Effects, and whether they are set or unset, the latest first. -/
  effects : List (Effect × Bool) := []
  color : Option (List Char) := none
  background : Option (List Char) := none
  link : Option (List Char) := none
deriving DecidableEq, Repr

namespace Style

/-- Reads a word that needs no other. -/
def readWord? (style : Style) (word : List Char) : Option Style :=
  let word := lower word
  match Effect.ofWord? (String.ofList word) with
  | some effect => some { style with effects := (effect, true) :: style.effects }
  | none => if isColor word then some { style with color := some word } else none

/-- Reads further words.  In a word the case does not matter, save in a link and in an
effect that is negated. -/
def readOn? (style : Style) : List (List Char) → Option Style
  | [] => some style
  | [word] => style.readWord? word
  | word :: next :: words =>
    match String.ofList (lower word) with
    | "on" =>
      if isColor (lower next) then readOn? { style with background := some (lower next) } words
      else none
    | "not" =>
      match Effect.ofWord? (String.ofList next) with
      | some effect => readOn? { style with effects := (effect, false) :: style.effects } words
      | none => none
    | "link" => readOn? { style with link := some next } words
    | _ =>
      match style.readWord? word with
      | some style => readOn? style (next :: words)
      | none => none

/-- The words of the normal form. -/
def normalWords (style : Style) : List (List Char) :=
  (Effect.all.filterMap fun effect =>
    (style.effects.lookup effect).map fun isSet =>
      (if isSet then effect.word else "not " ++ effect.word).toList) ++
  style.color.toList ++
  (style.background.toList.map ("on ".toList ++ ·)) ++
  (style.link.toList.map ("link ".toList ++ ·))

/-- The normal form of a name. -/
def normalName (name : List Char) : List Char :=
  match readOn? {} (words name) with
  | none => lower (trim name)
  | some style =>
    match style.normalWords with
    | [] => "none".toList
    | normal => [' '].intercalate normal

end Style

end TerminalConfig.Report
