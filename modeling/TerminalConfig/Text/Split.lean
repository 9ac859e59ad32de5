/-
Cutting a text at marks.
-/
namespace TerminalConfig.Text

/-- `cs` cut at every character of a class.  There is always at least one part. -/
def splitWhere (isMark : Char → Bool) : List Char → List (List Char)
  | [] => [[]]
  | c :: cs =>
    if isMark c then [] :: splitWhere isMark cs
    else
      match splitWhere isMark cs with
      | [] => [[c]]
      | part :: parts => (c :: part) :: parts

/-- `cs` cut wherever the character `mark` stands.  There is always at least one part. -/
def splitAtEach (mark : Char) (cs : List Char) : List (List Char) :=
  splitWhere (· == mark) cs

/-- `cs` cut wherever the character `mark` stands twice in a row, from left to right.
There is always at least one part. -/
def splitDoubled (mark : Char) : List Char → List (List Char)
  | [] => [[]]
  | [c] => [[c]]
  | c :: d :: cs =>
    if c == mark && d == mark then [] :: splitDoubled mark cs
    else
      match splitDoubled mark (d :: cs) with
      | [] => [[c]]
      | part :: parts => (c :: part) :: parts

/-- What follows `mark` in a text that begins with it. -/
def after? : List Char → List Char → Option (List Char)
  | [], cs => some cs
  | _ :: _, [] => none
  | m :: mark, c :: cs => if m == c then after? mark cs else none

/-- What follows a mark is no longer than the text that begins with it. -/
theorem length_after? {mark cs rest : List Char} (h : after? mark cs = some rest) :
    rest.length ≤ cs.length := by
  fun_induction after? mark cs <;> grind

/-- What stands before and after the first place where `cs` spells `mark`, which is not
empty. -/
def cut? (mark : List Char) : List Char → Option (List Char × List Char)
  | [] => none
  | c :: cs =>
    match after? mark (c :: cs) with
    | some rest => some ([], rest)
    | none => (cut? mark cs).map fun (before, after) => (c :: before, after)

end TerminalConfig.Text
