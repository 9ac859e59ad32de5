/-
What a template means.

The meaning is said once more without the reader and without the machinery that carries
the fault: the parts of a template from left to right, each with the fault before it.  A
variable counts with its text as it is, braces and backslashes included, because nothing
reads that text again.  The body of a conditional that does not hold is not looked at.

The main statement is that a template that is written, read and rendered comes to what it
means.
-/
import TerminalConfig.Proofs.Template.Writing

namespace TerminalConfig

open Text

namespace Template

/-- The text that a template stands for, and the fault after it. -/
def meaning (scope : Scope) (fault : Option Fault) :
    Template → Except NumeralError (List Char × Option Fault)
  | .nil => .ok ([], fault)
  | .literal c rest => do
    let (text, fault) ← rest.meaning scope fault
    return (c :: text, fault)
  | .reference name rest =>
    match scope.find? (String.ofList name) with
    | some v => do
      let (text, fault) ← rest.meaning scope fault
      return (v.value.spelled.toList ++ text, fault)
    | none => rest.meaning scope (some (.undefinedVariable (String.ofList name)))
  | .conditional condition body rest =>
    match ((Condition.ofChars condition).holds scope).start fault with
    | (.error error, _) => .error error
    | (.ok false, fault) => rest.meaning scope fault
    | (.ok true, fault) => do
      let (shown, fault) ← body.meaning scope fault
      let (text, fault) ← rest.meaning scope fault
      return (shown ++ text, fault)

/-- A result together with the fault after it, if there is a result. -/
def settled : Except NumeralError (List Char) × Option Fault →
    Except NumeralError (List Char × Option Fault)
  | (.ok text, fault) => .ok (text, fault)
  | (.error error, _) => .error error

/-- What follows a result that has been put before the rest. -/
theorem settled_start_map (evaluation : Evaluation (List Char))
    (add : List Char → List Char) (fault : Option Fault) :
    settled ((do return add (← evaluation)).start fault) = (do
      let (text, fault) ← settled (evaluation.start fault)
      return (add text, fault)) := by
  rw [Evaluation.start_bind]
  rcases evaluation.start fault with ⟨_ | text, later⟩ <;> rfl

/-- Rendering comes to the meaning. -/
theorem settled_start_render (scope : Scope) (t : Template) (fault : Option Fault) :
    settled ((t.render scope).start fault) = t.meaning scope fault := by
  induction t generalizing fault with
  | nil => rfl
  | literal c rest ih =>
      rw [render, meaning, settled_start_map, ih]
  | reference name rest ih =>
      rw [render, meaning]
      cases scope.find? (String.ofList name) with
      | some v =>
          dsimp only
          rw [settled_start_map, ih]
      | none =>
          dsimp only
          rw [Evaluation.start_bind, Evaluation.start_fail]
          exact ih _
  | conditional condition body rest ihBody ihRest =>
      rw [render, meaning, Evaluation.start_bind]
      rcases ((Condition.ofChars condition).holds scope).start fault with ⟨_ | holds, later⟩
      · rfl
      · cases holds with
        | false => exact ihRest later
        | true =>
            simp only [if_true]
            rw [Evaluation.start_bind, ← ihBody]
            rcases (body.render scope).start later with ⟨_ | shown, after⟩
            · rfl
            · dsimp only
              rw [settled_start_map, ihRest]
              rfl

/-- **A template that is written and interpolated comes to what it means.**  The fault of a
variable that is not defined names it. -/
theorem interpolate_written {t : Template} (h : t.Writable) (scope : Scope) :
    (interpolate (String.ofList t.written) scope =
      (t.meaning scope none).map fun (text, fault) => ⟨String.ofList text, fault⟩) ∧
    ∀ name, (Fault.undefinedVariable name).message =
      "reference to undefined variable '" ++ name ++ "'" := by
  refine ⟨?_, fun name => rfl⟩
  have hmeaning := settled_start_render scope t none
  rw [interpolate, String.toList_ofList, written_filter h, ofChars_written h, ← hmeaning]
  rcases (t.render scope).start none with ⟨_ | text, fault⟩ <;> rfl

/-- A name with a question mark, a condition with a colon and braces, a conditional inside
a conditional, and a variable whose text looks like a template. -/
theorem interpolate_written_nested :
    let scope := Scope.ofVariables [⟨"?a b", .text "\x7b\\\x7d?"⟩]
    let t := Template.conditional "?a b == ?a b || \x7d:\x7b".toList
      (.reference "?a b".toList
        (.conditional "?a b != ?a b".toList (.literal 'x' .nil) (.literal ':' .nil)))
      (.literal '{' (.reference "no\x7bpe".toList .nil))
    t.Writable ∧ interpolate (String.ofList t.written) scope =
      .ok ⟨"\x7b\\\x7d?:\x7b", some (.undefinedVariable "no\x7bpe")⟩ := by
  intro scope t
  have h : t.Writable := by
    simp [t, Writable]
    decide
  exact ⟨h, (interpolate_written h scope).1.trans (eq_ok_of_toOption (by decide +kernel))⟩

end Template

end TerminalConfig
