/-
Pictures in reports: the code of a picture is its name between colons.

The code may say after the name whether the picture is meant as a text or in color, and
then a character that selects that form follows the picture.  A code has no white space.
The first colon after the one that opens a code ends it, also if the name between them
is no name of a picture; then the code stays as it is.
-/
import TerminalConfig.Report.EmojiNames
import TerminalConfig.Text.Lowercase
import TerminalConfig.Text.Split
import TerminalConfig.Text.Whitespace

namespace TerminalConfig.Report.Emoji

open Text

/-- Words two by two. -/
def pairUp : List (List Char) → List (List Char × List Char)
  | first :: second :: rest => (first, second) :: pairUp rest
  | _ => []

/-- The pictures by their names. -/
def table : List (List Char × List Char) :=
  emojiNames.flatMap fun line => pairUp (words line.toList)

/-- The picture with a name, in any case. -/
def named? (name : List Char) : Option (List Char) :=
  table.lookup (lower name)

/-- The form in which a code asks for its picture. -/
inductive Form
  | unsaid
  | text
  | color
deriving DecidableEq, Repr

/-- The form as it is written after the name. -/
def Form.written : Form → List Char
  | .unsaid => []
  | .text => "-text".toList
  | .color => "-emoji".toList

/-- What follows the picture to select the form. -/
def Form.selector : Form → List Char
  | .unsaid => []
  | .text => [Char.ofNat 0xFE0E]
  | .color => [Char.ofNat 0xFE0F]

/-- A code without the colon that opens it. -/
structure Code where
  name : List Char
  form : Form

/-- The code as it is written. -/
def Code.written (code : Code) : List Char :=
  ':' :: (code.name ++ code.form.written ++ [':'])

/-- What a report shows for the code. -/
def Code.shown (code : Code) : List Char :=
  match named? code.name with
  | some picture => picture ++ code.form.selector
  | none => code.written

/-- The end of a code in the given form, and what follows the code. -/
def endIn? (form : Form) (cs : List Char) : Option (Form × List Char) :=
  (after? (form.written ++ [':']) cs).map fun rest => (form, rest)

/-- The form at the end of a code, if the code ends here, and what follows the code. -/
def end? (cs : List Char) : Option (Form × List Char) :=
  (endIn? .color cs).or ((endIn? .text cs).or (endIn? .unsaid cs))

/-- A code after the colon that opens it, and what follows the code. -/
def code? : List Char → Option (Code × List Char)
  | [] => none
  | c :: cs =>
    match end? (c :: cs) with
    | some (form, rest) => some (⟨[], form⟩, rest)
    | none =>
      if isWhitespace c then none
      else (code? cs).map fun (code, rest) => ({ code with name := c :: code.name }, rest)

theorem length_endIn? {form f : Form} {cs rest : List Char}
    (h : endIn? form cs = some (f, rest)) : rest.length ≤ cs.length := by
  obtain ⟨r, hr, hp⟩ := Option.map_eq_some_iff.1 h
  cases hp
  exact length_after? hr

theorem length_end? {form : Form} {cs rest : List Char} (h : end? cs = some (form, rest)) :
    rest.length ≤ cs.length := by
  simp only [end?, Option.or_eq_some_iff] at h
  rcases h with h | ⟨-, h | ⟨-, h⟩⟩ <;> exact length_endIn? h

theorem length_code? {cs rest : List Char} {code : Code} (h : code? cs = some (code, rest)) :
    rest.length ≤ cs.length := by
  fun_induction code? cs generalizing code rest with
  | case1 => cases h
  | case2 c cs form r hend =>
    cases h
    exact length_end? hend
  | case3 => cases h
  | case4 c cs _ _ ih =>
    obtain ⟨⟨inner, r⟩, hr, hp⟩ := Option.map_eq_some_iff.1 h
    cases hp
    exact Nat.le_trans (ih hr) (Nat.le_succ _)

/-- A text with pictures for their codes. -/
def replaceCodes : List Char → List Char
  | [] => []
  | c :: cs =>
    if c == ':' then
      match hcode : code? cs with
      | some (code, rest) =>
        have := length_code? hcode
        code.shown ++ replaceCodes rest
      | none => c :: replaceCodes cs
    else c :: replaceCodes cs
termination_by cs => cs.length

end TerminalConfig.Report.Emoji
