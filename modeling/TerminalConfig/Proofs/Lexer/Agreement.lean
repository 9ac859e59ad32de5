/-
Texts whose values can be taken apart.

A text that is read without a problem has only values that can be taken apart without one,
as long as the machine and the reading of its values do not part.  A text in which no
backslash escapes a blank, a control character or a quote is one in which they never do.

The induction is on the text, from any state in which the two are in step.  It does not use
that no problem is shown, except for a list that is still open at the end.
-/
import TerminalConfig.Proofs.Lexer.History
import TerminalConfig.Proofs.Lexer.SafeEscapes

namespace TerminalConfig

open ListValue Text

namespace Scanner

variable {s : Scanner} {c : Char}

theorem entriesOf_happening (s : Scanner) (c : Char) :
    entriesOf (s.happening c) = (s.step c).entry.toList := by
  unfold happening
  cases s.step c <;> simp [Step.entry]

/-- From a state in which the two are in step, the entries of a text that does not end inside
a list are well formed. -/
theorem InStep.history {text : List Char} (h : s.InStep) (hkeeps : s.keepsStep text = true)
    (hend : ∀ p ∈ problemsOf (s.history text), p.error ≠ .listAtEnd) :
    ∀ e ∈ entriesOf (s.history text), e.WellFormed := by
  induction text generalizing s with
  | nil =>
      have hlist : s.inList = false := by
        rw [← Bool.not_eq_true]
        intro hlist
        refine hend ⟨s.line, .listAtEnd⟩ ?_ rfl
        simp [Scanner.history, ending, endProblems, endErrors, hlist]
      simpa [Scanner.history, ending] using h.endEntry hlist
  | cons c cs ih =>
      simp only [keepsStep, Bool.and_eq_true, Bool.not_eq_true'] at hkeeps
      obtain ⟨⟨hescape, hquoted⟩, hrest⟩ := hkeeps
      rw [Scanner.history, problemsOf_append, List.forall_mem_append] at hend
      rw [Scanner.history, entriesOf_append, List.forall_mem_append, entriesOf_happening]
      refine ⟨?_, ih (h.advance hescape hquoted) hrest hend.2⟩
      simpa using (h.step hescape hquoted).entry

end Scanner

/-! ### Readings -/

open Scanner in
/-- **A text that is read without a problem has only well formed entries**, if its escapes
are safe, or at least the machine and the reading of a value never part. -/
theorem readSettings_wellFormed (policy : Policy) {text : List Char}
    (hkeeps : safeEscapes false text = true ∨ ({} : Scanner).keepsStep text = true)
    (hnone : (readSettings policy text).problems = []) :
    ∀ e ∈ (readSettings policy text).entries, e.WellFormed := by
  obtain ⟨hentries, hproblems, -⟩ := readSettings_eq policy text
  rw [hproblems] at hnone
  rw [upToStop_of_problemsOf_eq_nil hnone] at hentries hnone
  rw [hentries]
  have hkeeps : ({} : Scanner).keepsStep text = true :=
    hkeeps.elim (keepsStep_of_safeEscapes inStep_start follows_start faithful_start) id
  refine inStep_start.history hkeeps fun p hp => ?_
  rw [hnone] at hp
  exact absurd hp List.not_mem_nil

/-- Brackets and quotes inside quotes, escapes and a comment inside a list. -/
theorem readSettings_wellFormed_mixed :
    let text := "k = [a\\ b, \"c [d] \\\" e\", # f\n \\]]\nl = \"\\\"m\"\n".toList
    (readSettings .warn text).problems = [] ∧
      (readSettings .warn text).entries =
        [⟨"k", some "[a\\ b,\"c \\[d\\] \\\" e\",  \\]]", 1⟩, ⟨"l", some "\"m", 3⟩] ∧
      ∀ e ∈ (readSettings .warn text).entries, e.WellFormed :=
  ⟨by decide +kernel, by decide +kernel,
    readSettings_wellFormed .warn (Or.inr (by decide +kernel)) (by decide +kernel)⟩

/-- A blank that gets lost behind a backslash, which then escapes a quote.  A control
character can get lost as well, and a quote that was escaped before a list can open one. -/
theorem readSettings_illFormed :
    let unnoticed := fun text : String =>
      (readSettings .warn text.toList).problems = [] ∧
        ∃ e ∈ (readSettings .warn text.toList).entries, ¬e.WellFormed
    (readSettings .warn "k = [a\\ \"b\"]\n".toList).entries =
        [⟨"k", some "[a\\\"b\"]", 1⟩] ∧
      (expandEntry (some "[a\\\"b\"]")).problems =
        [.openList "[a\\\"b\"]", .openQuote "[a\\\"b\"]"] ∧
      unnoticed "k = [a\\ \"b\"]\n" ∧ unnoticed "k = [a\\\x01]\n" ∧
      unnoticed "k = \"a\\\"b\" [c]\n" := by
  decide +kernel

end TerminalConfig
