/-
How many columns a text takes on a screen.

Most characters take one column.  Control characters, format characters and marks that
combine with the character before them take none, and the wide characters of East Asian
scripts and most pictures take two.

Two characters change the width of others.  One joins pictures, and the picture after it
takes no columns of its own.  The other selects the colored form of the character before
it, which takes two columns then.
-/
import TerminalConfig.Report.WidthRanges
import TerminalConfig.Text.Ranges
import TerminalConfig.Text.Split

namespace TerminalConfig.Report

/-- The columns that a character takes by itself. -/
def charWidth (c : Char) : Nat :=
  if c.toNat < 0x20 || (0x7F ≤ c.toNat && c.toNat ≤ 0x9F) then 0
  else if Text.inRanges c.toNat flatRanges then 0
  else if Text.inRanges c.toNat wideRanges then 2
  else 1

/-- Joins the picture after it to the one before it. -/
def joiner : Char := Char.ofNat 0x200D

/-- Selects the colored form of the character before it. -/
def colorSelector : Char := Char.ofNat 0xFE0F

/-- The columns that a line takes after a character that can still be widened. -/
def widthAfter (latest : Option Char) : List Char → Nat
  | [] => 0
  | c :: cs =>
    if c == joiner then
      match cs with
      | [] => 0
      | _ :: cs => widthAfter latest cs
    else if c == colorSelector then
      (match latest with
        | some d => if Text.inRanges d.toNat widenedRanges then 1 else 0
        | none => 0) + widthAfter none cs
    else charWidth c + widthAfter (if charWidth c = 0 then latest else some c) cs

/-- The columns that a line takes. -/
def width (cs : List Char) : Nat :=
  widthAfter none cs

/-- The distance of tab stops. -/
def tabStop : Nat := 8

/-- The parts of a line with spaces from each to the next tab stop. -/
def joinAtStops : List (List Char) → List Char
  | [] => []
  | [part] => part
  | part :: parts =>
    part ++ List.replicate (tabStop - width part % tabStop) ' ' ++ joinAtStops parts

/-- The lines of a text, with spaces for tabs. -/
def lines (text : String) : List (List Char) :=
  (Text.splitAtEach '\n' text.toList).map fun line => joinAtStops (Text.splitAtEach '\t' line)

end TerminalConfig.Report
