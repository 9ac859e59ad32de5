/-
The readers of escapes side by side.

Values of lists and templates have the same escapes, but each has readers of its own.  One
asks whether a value is a list, one resolves a scalar, one asks whether a text has a placeholder,
one resolves a text in a template, and one reads the whole template.  Those of lists carry along
whether a backslash came right before, and those of templates take a backslash and the next
character together.  What they come to is tied to `meant`, so they agree on every run of
backslashes, also on one that ends the text.

A text that stands for itself with all of them needs a backslash before each backslash and before
each bracket and brace that opens.
-/
import TerminalConfig.Proofs.ListValue.Scalar
import TerminalConfig.Proofs.Template.Joining

namespace TerminalConfig

open Text

/-- A character that has to be escaped to stand for itself in values and templates alike. -/
def isReserved (c : Char) : Bool :=
  c == '\\' || c == '[' || c == '{'

/-- A text with a backslash before each reserved character. -/
def guarded (text : String) : String :=
  String.ofList (escape isReserved text.toList)

theorem Template.expand_of_not_hasPlaceholder (scope : Scope) {cs : List Char}
    (h : hasPlaceholder cs = false) (fault : Option Fault) :
    expand scope cs fault = (.ok (unescape cs), fault) := by
  rw [expand, render_of_not_hasPlaceholder scope h, Evaluation.start_pure]

/-- **All readers of escapes agree.**

  * Any text is resolved to the same as a scalar and as a text in a template.
  * A template without placeholders comes to its text with the escapes resolved, whatever the
    variables, and leaves the fault that was there.
  * Any text can be guarded.  It is then no list and has no placeholder, as a value it is one
    element, namely the text itself, with nothing odd about it, and as a template it comes to the
    text itself without a fault of its own. -/
theorem escapes_agree :
    (∀ cs, ListValue.resolve false cs = unescape cs) ∧
    (∀ text scope fault, needsInterpolation text = false →
      Template.expand scope text.toList fault = (.ok (unescape text.toList), fault)) ∧
    ∀ text, ListValue.isList (guarded text) = false ∧ needsInterpolation (guarded text) = false ∧
      ListValue.expand (guarded text) = { first := text } ∧
      ∀ scope fault,
        Template.expand scope (guarded text).toList fault = (.ok text.toList, fault) := by
  refine ⟨ListValue.resolve_eq_unescape,
    fun text scope fault h => Template.expand_of_not_hasPlaceholder scope h fault, fun text => ?_⟩
  have hbracket : ∀ c ∈ text.toList, c = '[' ∨ c = '\\' → isReserved c = true := by
    rintro c - (rfl | rfl) <;> decide
  have hbrace : ∀ c ∈ text.toList, c = '{' ∨ c = '\\' → isReserved c = true := by
    rintro c - (rfl | rfl) <;> decide
  have hlist : ListValue.isList (guarded text) = false := by
    rw [guarded, ListValue.isList, String.toList_ofList, ListValue.opensList_escape hbracket]
  have hplain : Template.hasPlaceholder (escape isReserved text.toList) = false :=
    Template.hasPlaceholder_escape hbrace
  refine ⟨hlist, ?_, ?_, fun scope fault => ?_⟩
  · rw [guarded, needsInterpolation, String.toList_ofList, hplain]
  · rw [guarded, ListValue.expand_escape hbracket, String.ofList_toList]
  · rw [guarded, String.toList_ofList, Template.expand_of_not_hasPlaceholder scope hplain,
      unescape_escape (by decide)]

/-- Runs of backslashes, one before a brace and one at the end, and a text of marks that is
guarded. -/
theorem escapes_agree_backslashes :
    let text := "a\\\\b\\\x7bc\x7d\\"
    let marks := "[\\\x7b\x7d]"
    needsInterpolation text = false ∧
      Template.expand {} text.toList none = (.ok "a\\b\x7bc\x7d".toList, none) ∧
      guarded marks = "\\[\\\\\\\x7b\x7d]" ∧
      ListValue.expand (guarded marks) = { first := marks } := by
  intro text marks
  obtain ⟨-, hplain, hguarded⟩ := escapes_agree
  have hneeds : needsInterpolation text = false := by decide
  have hresolved : unescape text.toList = "a\\b\x7bc\x7d".toList := by decide
  have hexpand := hplain text {} none hneeds
  rw [hresolved] at hexpand
  exact ⟨hneeds, hexpand, by decide, (hguarded marks).2.2.1⟩

end TerminalConfig
