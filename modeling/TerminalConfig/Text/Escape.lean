/-
Backslash escapes in templates: a backslash makes the character after it stand for
itself.  A backslash at the end stands for nothing.
-/
namespace TerminalConfig.Text

/-- `cs` with its escapes resolved. -/
def unescape : List Char → List Char
  | [] => []
  | ['\\'] => []
  | '\\' :: c :: cs => c :: unescape cs
  | c :: cs => c :: unescape cs

theorem unescape_cons_of_ne {c : Char} (h : c ≠ '\\') (cs : List Char) :
    unescape (c :: cs) = c :: unescape cs := by
  rw [unescape.eq_def]
  split <;> simp_all

end TerminalConfig.Text
