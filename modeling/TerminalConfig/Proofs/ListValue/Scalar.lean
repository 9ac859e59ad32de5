/-
Values that are not lists.

A value is not a list if each of its opening brackets has a backslash.  Its escapes are
then resolved, which gives back the text whose brackets and backslashes were escaped.

Both readings carry along whether a backslash came right before.  The induction is on the
text with that flag: behind a backslash the next character is taken whatever it is, and so
both come to what is said of the text with its escaped characters marked.
-/
import TerminalConfig.ListValue
import TerminalConfig.Proofs.Text.Escape

namespace TerminalConfig.ListValue

open Text

variable {special : Char → Bool} {cs : List Char}

/-- A value is a list if an opening bracket is meant that is not escaped. -/
theorem opensList_iff_mem_meant (cs : List Char) :
    opensList false cs = true ↔ ('[', false) ∈ meant cs := by
  fun_induction meant cs with
  | case1 => simp [opensList]
  | case2 => simp [opensList]
  | case3 c cs ih => simpa [opensList] using ih
  | case4 c cs hlone hescape ih =>
      have hc : (c == '\\') = false := beq_false_of_ne (ne_backslash hlone hescape)
      simp [opensList, hc, ih, @eq_comm _ '[' c]

/-- The scalars that a value and a template resolve are the same. -/
theorem resolve_eq_unescape (cs : List Char) : resolve false cs = unescape cs := by
  fun_induction unescape cs with
  | case1 => rfl
  | case2 => rfl
  | case3 c cs ih => simp [resolve, ih]
  | case4 c cs hlone hescape ih =>
      have hc : (c == '\\') = false := beq_false_of_ne (ne_backslash hlone hescape)
      simp [resolve, hc, ih]

theorem opensList_escape (h : ∀ c ∈ cs, c = '[' ∨ c = '\\' → special c = true) :
    opensList false (escape special cs) = false := by
  rw [← Bool.not_eq_true, opensList_iff_mem_meant]
  exact not_mem_meant_escape h

theorem resolve_escape (h : ∀ c ∈ cs, c = '[' ∨ c = '\\' → special c = true) :
    resolve false (escape special cs) = cs := by
  rw [resolve_eq_unescape, unescape_eq_map_meant,
    meant_escape fun c hc hback => h c hc (.inr hback), List.map_map]
  exact List.map_id cs

/-- **An escaped text is one element**, and there is nothing to say about it. -/
theorem expand_escape (h : ∀ c ∈ cs, c = '[' ∨ c = '\\' → special c = true) :
    expand (String.ofList (escape special cs)) = { first := String.ofList cs } := by
  have hscalar : ¬isList (String.ofList (escape special cs)) = true := by
    rw [isList, String.toList_ofList, opensList_escape h]
    decide
  rw [expand, if_neg hscalar, String.toList_ofList, resolve_escape h]

/-- A text without brackets and backslashes is one element. -/
theorem expand_of_plain {text : String} (h : ∀ c ∈ text.toList, c ≠ '[' ∧ c ≠ '\\') :
    expand text = { first := text } := by
  have hescape : escape (fun _ => false) text.toList = text.toList :=
    escape_of_plain fun _ _ => rfl
  have hexpand : expand (String.ofList (escape (fun _ => false) text.toList)) =
      { first := String.ofList text.toList } := by
    refine expand_escape fun c hc hspecial => ?_
    rcases hspecial with hbracket | hbackslash
    · exact absurd hbracket (h c hc).1
    · exact absurd hbackslash (h c hc).2
  rwa [hescape, String.ofList_toList] at hexpand

end TerminalConfig.ListValue
