/-
Templates without placeholders.

Whether a template has a placeholder is asked of the text as it stands, but control
characters are left out before it is read.  The two views agree as long as no backslash
stands before a control character.  Where one does, it escapes what follows the control
character once that is gone, and a brace further on may change its part.
-/
import TerminalConfig.Template.Basic
import TerminalConfig.Proofs.Text.Escape

namespace TerminalConfig

open Text

/-- A result that is there is the result. -/
theorem eq_ok_of_toOption {ε α : Type} {x : Except ε α} {a : α} (h : x.toOption = some a) :
    x = .ok a := by
  cases x with
  | error e => cases h
  | ok b => exact congrArg Except.ok (Option.some.inj h)

namespace Template

/-! ### Rendering -/

theorem ofChars_cons_of_ne {c : Char} (hescape : c ≠ '\\') (hbrace : c ≠ '{')
    (cs : List Char) : ofChars (c :: cs) = .literal c (ofChars cs) := by
  rw [ofChars.eq_def]
  split <;> simp_all

theorem hasPlaceholder_cons_of_ne {c : Char} (hescape : c ≠ '\\') (hbrace : c ≠ '{')
    (cs : List Char) : hasPlaceholder (c :: cs) = hasPlaceholder cs := by
  rw [hasPlaceholder.eq_def]
  split <;> simp_all

/-- A text has a placeholder if an opening brace is meant that is not escaped. -/
theorem hasPlaceholder_iff_mem_meant (cs : List Char) :
    hasPlaceholder cs = true ↔ ('{', false) ∈ meant cs := by
  fun_induction hasPlaceholder cs with
  | case1 => simp [meant]
  | case2 => simp [meant]
  | case3 c cs ih => simpa [meant] using ih
  | case4 cs => simp [meant_cons_of_ne]
  | case5 c cs hlone hescape hbrace ih =>
      have hc : '{' ≠ c := fun heq => hbrace heq.symm
      simp [meant_cons_of_ne (ne_backslash hlone hescape), hc, ih]

/-- Where braces and backslashes are escaped there is no placeholder. -/
theorem hasPlaceholder_escape {special : Char → Bool} {cs : List Char}
    (h : ∀ c ∈ cs, c = '{' ∨ c = '\\' → special c = true) :
    hasPlaceholder (escape special cs) = false := by
  rw [← Bool.not_eq_true, hasPlaceholder_iff_mem_meant]
  exact not_mem_meant_escape h

/-- A template without placeholders is its own text, whatever the variables. -/
theorem render_of_not_hasPlaceholder (scope : Scope) {cs : List Char}
    (h : hasPlaceholder cs = false) : (ofChars cs).render scope = pure (unescape cs) := by
  fun_induction hasPlaceholder cs with
  | case1 => rw [ofChars, unescape, render]
  | case2 => rw [ofChars, unescape, render]
  | case3 c cs ih =>
      rw [ofChars, unescape, render, ih h]
      simp
  | case4 => simp at h
  | case5 c cs hlone hescape hbrace ih =>
      have hc : c ≠ '\\' := ne_backslash hlone hescape
      rw [ofChars_cons_of_ne hc hbrace, unescape_cons_of_ne hc, render, ih h]
      simp

/-! ### Control characters -/

/-- Whether a backslash that is not escaped stands before a control character. -/
def escapesControl : List Char → Bool
  | [] => false
  | ['\\'] => false
  | '\\' :: c :: cs => isControl c || escapesControl cs
  | _ :: cs => escapesControl cs

/-- Unless a control character is escaped, leaving out the control characters neither makes
a placeholder nor breaks one. -/
theorem hasPlaceholder_filter {cs : List Char} (h : escapesControl cs = false) :
    hasPlaceholder (cs.filter fun c => !isControl c) = hasPlaceholder cs := by
  fun_induction escapesControl cs with
  | case1 => rfl
  | case2 => rfl
  | case3 c cs ih =>
      obtain ⟨hc, hcs⟩ := Bool.or_eq_false_iff.mp h
      have hback : isControl '\\' = false := by decide
      simp only [List.filter_cons, hback, hc, Bool.not_false, if_true, hasPlaceholder]
      exact ih hcs
  | case4 c cs hlone hescape ih =>
      have hc : c ≠ '\\' := ne_backslash hlone hescape
      by_cases hcontrol : isControl c = true
      · have hbrace : c ≠ '{' := by
          rintro rfl
          exact absurd hcontrol (by decide)
        rw [List.filter_cons_of_neg (by simp [hcontrol]), hasPlaceholder_cons_of_ne hc hbrace]
        exact ih h
      · rw [List.filter_cons_of_pos (by simp [hcontrol])]
        by_cases hbrace : c = '{'
        · rw [hbrace, hasPlaceholder, hasPlaceholder]
        · rw [hasPlaceholder_cons_of_ne hc hbrace, hasPlaceholder_cons_of_ne hc hbrace]
          exact ih h

end Template

end TerminalConfig
