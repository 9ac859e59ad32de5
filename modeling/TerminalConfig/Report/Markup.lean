/-
Markup in reports, as it shows where there are no colors.

A tag is a pair of brackets around a name that begins with a small letter, a number
sign, a slash or an at sign, without an opening bracket in it.  Tags choose styles and
do not show.  A backslash before a tag makes it plain text, and two make one that shows.
A closing tag must close something, and names of the same style are the same to it.

Text that is not meant as markup is escaped before it is put into a report.  Escaping
protects what reads as a tag and nothing else: codes of pictures are replaced in escaped
text too, and a backslash before a bracket that opens no tag is lost.
-/
import TerminalConfig.Report.Emoji
import TerminalConfig.Report.Style

namespace TerminalConfig.Report.Markup

open Text

/-- What can stand after the bracket that opens a tag. -/
def startsTag (c : Char) : Bool :=
  ('a' ≤ c && c ≤ 'z') || c == '#' || c == '/' || c == '@'

/-- What stands before and after the first closing bracket, if no other bracket opens
before it. -/
def cutBracket? : List Char → Option (List Char × List Char)
  | [] => none
  | c :: cs =>
    if c == ']' then some ([], cs)
    else if c == '[' then none
    else (cutBracket? cs).map fun (before, after) => (c :: before, after)

/-- The name in a tag whose opening bracket has been read, and what follows the tag. -/
def tag? : List Char → Option (List Char × List Char)
  | [] => none
  | c :: cs => if startsTag c then cutBracket? (c :: cs) else none

theorem length_cutBracket? {cs before after : List Char}
    (h : cutBracket? cs = some (before, after)) : after.length < cs.length := by
  fun_induction cutBracket? cs generalizing before after <;> simp_all
  all_goals grind

theorem length_tag? {cs name after : List Char} (h : tag? cs = some (name, after)) :
    after.length < cs.length := by
  cases cs with
  | nil => cases h
  | cons c cs =>
    simp only [tag?] at h
    split at h
    · exact length_cutBracket? h
    · cases h

/-! ### Escaping -/

/-- Escapes what reads as a tag, after so many backslashes. -/
def escapeAfter (slashes : Nat) : List Char → List Char
  | [] => List.replicate slashes '\\'
  | c :: cs =>
    if c == '\\' then escapeAfter (slashes + 1) cs
    else if c == '[' then
      match hcut : tag? cs with
      | some (name, after) =>
        have := length_tag? hcut
        List.replicate (2 * slashes + 1) '\\' ++ '[' :: (name ++ ']' :: escapeAfter 0 after)
      | none => List.replicate slashes '\\' ++ c :: escapeAfter 0 cs
    else List.replicate slashes '\\' ++ c :: escapeAfter 0 cs
termination_by cs => cs.length

/-- A text in which nothing reads as a tag.  A single backslash at its end is doubled,
lest it escape what comes after it. -/
def escape (text : String) : String :=
  let escaped := escapeAfter 0 text.toList
  match escaped.reverse with
  | '\\' :: '\\' :: _ => String.ofList escaped
  | '\\' :: _ => String.ofList (escaped ++ ['\\'])
  | _ => String.ofList escaped

/-! ### Reading -/

/-- A piece of markup.  Backslashes before a tag are counted in pairs, each of which
shows as one. -/
inductive Piece
  | plain (cs : List Char)
  /-- A tag that a further backslash makes plain text. -/
  | escaped (pairs : Nat) (name : List Char)
  | tag (pairs : Nat) (name : List Char)
deriving DecidableEq, Repr

/-- Pieces with plain text before them. -/
def addPlain (cs : List Char) : List Piece → List Piece
  | .plain ds :: pieces => .plain (cs ++ ds) :: pieces
  | pieces => .plain cs :: pieces

/-- The pieces of markup after so many backslashes.  One of the backslashes before a
bracket that opens no tag is lost. -/
def piecesAfter (slashes : Nat) : List Char → List Piece
  | [] => addPlain (List.replicate slashes '\\') []
  | c :: cs =>
    if c == '\\' then piecesAfter (slashes + 1) cs
    else if c == '[' then
      match hcut : tag? cs with
      | some (name, after) =>
        have := length_tag? hcut
        (if slashes % 2 == 1 then .escaped (slashes / 2) name else .tag (slashes / 2) name) ::
          piecesAfter 0 after
      | none => addPlain (List.replicate (slashes - 1) '\\' ++ [c]) (piecesAfter 0 cs)
    else addPlain (List.replicate slashes '\\' ++ [c]) (piecesAfter 0 cs)
termination_by cs => cs.length

/-- The style that a tag names, without what is passed to it. -/
def styleName (name : List Char) : List Char :=
  Style.normalName (name.takeWhile (· != '='))

/-- The styles that are open after a tag, the latest first, or none if the tag closes
what is not open. -/
def applyTag? (opened : List (List Char)) (name : List Char) : Option (List (List Char)) :=
  match name with
  | '/' :: closing =>
    if trim (closing.takeWhile (· != '=')) = [] then
      match opened with
      | [] => none
      | _ :: rest => some rest
    else if opened.contains (styleName closing) then some (opened.erase (styleName closing))
    else none
  | _ => some (styleName name :: opened)

/-- The text that pieces show, with the styles that are open.  There is none if a tag
closes what is not open. -/
def showPieces? (opened : List (List Char)) : List Piece → Option (List Char)
  | [] => some []
  | .plain cs :: pieces => (showPieces? opened pieces).map (Emoji.replaceCodes cs ++ ·)
  | .escaped pairs name :: pieces =>
    (showPieces? opened pieces).map fun rest =>
      List.replicate pairs '\\' ++ Emoji.replaceCodes ('[' :: (name ++ [']'])) ++ rest
  | .tag pairs name :: pieces =>
    match applyTag? opened name with
    | none => none
    | some opened =>
      (showPieces? opened pieces).map fun rest => List.replicate pairs '\\' ++ rest

/-- The characters that a report leaves out. -/
def isDropped (c : Char) : Bool :=
  c.toNat == 7 || c.toNat == 8 || c.toNat == 11 || c.toNat == 12 || c.toNat == 13

/-- The text that markup shows. -/
def shown? (markup : String) : Option String :=
  (showPieces? [] (piecesAfter 0 markup.toList)).map fun cs =>
    String.ofList (cs.filter fun c => !isDropped c)

end TerminalConfig.Report.Markup
