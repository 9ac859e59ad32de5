/-
Placeholders: what may stand between a pair of braces in a template.

A placeholder ends at the brace that matches its own, whatever is inside.  Escapes in it
are kept when it is cut out of the template, because its own reading has to see them:
the name of a variable loses them, and so does a condition, while a body keeps them for
its reading as a template.

An expression that begins with a question mark is a conditional, and without a colon
outside all inner braces it stands for nothing.
-/
import TerminalConfig.Text.Blank
import TerminalConfig.Text.Escape

namespace TerminalConfig

open Text

/-- What stands between the braces of a placeholder. -/
inductive Placeholder
  /-- Nothing that counts. -/
  | empty
  | reference (name : List Char)
  | conditional (condition body : List Char)
deriving DecidableEq, Repr

namespace Placeholder

/-- Cuts a text at the brace that closes a placeholder, inside which `depth` further
braces are open.  The expression before it keeps its escapes. -/
def cutClosing? (depth : Nat) : List Char → Option (List Char × List Char)
  | [] => none
  | ['\\'] => none
  | '\\' :: c :: cs => (cutClosing? depth cs).map fun (e, rest) => ('\\' :: c :: e, rest)
  | '{' :: cs => (cutClosing? (depth + 1) cs).map fun (e, rest) => ('{' :: e, rest)
  | '}' :: cs =>
    match depth with
    | 0 => some ([], cs)
    | d + 1 => (cutClosing? d cs).map fun (e, rest) => ('}' :: e, rest)
  | c :: cs => (cutClosing? depth cs).map fun (e, rest) => (c :: e, rest)

/-- Cuts a conditional at the colon outside all inner braces, `depth` of which are
open.  The condition before it loses its escapes. -/
def cutColon? (depth : Nat) : List Char → Option (List Char × List Char)
  | [] => none
  | ['\\'] => none
  | '\\' :: c :: cs => (cutColon? depth cs).map fun (e, rest) => (c :: e, rest)
  | '{' :: cs => (cutColon? (depth + 1) cs).map fun (e, rest) => ('{' :: e, rest)
  | '}' :: cs => (cutColon? (depth - 1) cs).map fun (e, rest) => ('}' :: e, rest)
  | ':' :: cs =>
    match depth with
    | 0 => some ([], cs)
    | d + 1 => (cutColon? (d + 1) cs).map fun (e, rest) => (':' :: e, rest)
  | c :: cs => (cutColon? depth cs).map fun (e, rest) => (c :: e, rest)

/-- The name that an expression refers to: without the blanks around it, unless it has
nothing else. -/
def nameOf (expression : List Char) : List Char :=
  let name := unescape expression
  if trimBlanks name = [] then name else trimBlanks name

/-- Reads the expression between the braces. -/
def ofChars (expression : List Char) : Placeholder :=
  match expression.dropWhile isBlank with
  | '?' :: cs =>
    match cutColon? 0 cs with
    | some (condition, body) => .conditional condition body
    | none => .empty
  | _ => if expression = [] then .empty else .reference (nameOf expression)

theorem length_cutClosing? {cs e rest : List Char} {depth : Nat}
    (h : cutClosing? depth cs = some (e, rest)) : e.length + rest.length < cs.length := by
  fun_induction cutClosing? depth cs generalizing e rest <;> simp_all
  all_goals grind

theorem length_cutColon? {cs e rest : List Char} {depth : Nat}
    (h : cutColon? depth cs = some (e, rest)) : rest.length < cs.length := by
  fun_induction cutColon? depth cs generalizing e rest <;> simp_all
  all_goals grind

/-- The body of a conditional is shorter than the expression it was read from. -/
theorem length_body {expression condition body : List Char}
    (h : ofChars expression = .conditional condition body) :
    body.length < expression.length := by
  unfold ofChars at h
  split at h
  · rename_i cs hcs
    split at h
    · rename_i c b hcut
      have hb := length_cutColon? hcut
      have hd := (List.dropWhile_sublist (p := isBlank) (l := expression)).length_le
      rw [hcs, List.length_cons] at hd
      cases h
      omega
    · cases h
  · split at h <;> cases h

end Placeholder

end TerminalConfig
