/-
What evaluating a template comes to, and what happens on the way.

Two things can happen on the way.  A fault is noted, and evaluation goes on with zero or
with nothing in place of the part that failed.  Or a numeral is refused, and evaluation
stops.  `outcome` puts the incidents together again: the first refusal is the result, and
otherwise the last fault is kept.

The values and the incidents are said apart from each other, and without the machinery
that carries faults.  A value is the one that evaluation goes on with, so it is there also
where a numeral is refused, which counts as zero.  The incidents follow the evaluation:
they leave out the alternatives after one that holds, what follows alternatives of which
none holds, and the body of a conditional that does not hold.
-/
import TerminalConfig.Template.Basic
import TerminalConfig.Proofs.Number.Leading

namespace TerminalConfig

open Text

/-! ### Incidents -/

/-- What can happen on the way. -/
inductive Incident
  | fault (fault : Fault)
  | refusal (error : NumeralError)
deriving DecidableEq, Repr

namespace Evaluation

variable {α β : Type} {a : α} {b : β} {m : Evaluation α} {before after : List Incident}

/-- The outcome of an evaluation that has these incidents and comes to `a`, and the fault
after it. -/
def outcome (a : α) : List Incident → Option Fault → Except NumeralError α × Option Fault
  | [], fault => (.ok a, fault)
  | .fault fault :: incidents, _ => outcome a incidents (some fault)
  | .refusal error :: _, fault => (.error error, fault)

/-- The evaluation comes to `a` and has these incidents, whatever the fault before it. -/
def Gives (m : Evaluation α) (a : α) (incidents : List Incident) : Prop :=
  ∀ fault, m.start fault = outcome a incidents fault

theorem gives_pure (a : α) : (pure a : Evaluation α).Gives a [] :=
  fun _ => rfl

theorem gives_fail (fault : Fault) : (fail fault).Gives () [.fault fault] :=
  fun _ => rfl

/-- One evaluation after another. -/
theorem Gives.bind {next : α → Evaluation β} (hm : m.Gives a before)
    (hnext : (next a).Gives b after) : (m >>= next).Gives b (before ++ after) := by
  intro fault
  rw [start_bind, hm fault]
  clear hm
  induction before generalizing fault with
  | nil => exact hnext fault
  | cons incident before ih =>
      cases incident with
      | fault f => exact ih (some f)
      | refusal error => rfl

/-- An evaluation whose result is only changed. -/
theorem Gives.map (hm : m.Gives a before) (f : α → β) :
    (do return f (← m)).Gives (f a) before := by
  have hboth : (m >>= fun a => (pure (f a) : Evaluation β)).Gives (f a) (before ++ []) :=
    hm.bind (gives_pure (f a))
  rw [List.append_nil] at hboth
  exact hboth

end Evaluation

open Evaluation

/-! ### Operands -/

namespace Operand

/-- The truth value that a word stands for. -/
def word? (text : String) : Option Binary64 :=
  match lowered text with
  | "true" => some (.ofBool true)
  | "false" => some (.ofBool false)
  | _ => none

/-- The number that evaluation goes on with for an operand.  A text variable counts as zero,
and so does a numeral that is refused. -/
def worth (scope : Scope) (cs : List Char) : Binary64 :=
  let text := String.ofList (plain cs).2
  let finish := fun x => if (plain cs).1 then negate x else x
  match word? text with
  | some x => finish x
  | none =>
    match scope.find? text with
    | some v => (v.value.number?.map finish).getD .zero
    | none => finish ((Numeral.readLeading text).toOption.getD .zero)

/-- What happens when an operand is looked at.  A text variable is a fault, and what is
neither a word nor a variable is read as a numeral. -/
def incident? (scope : Scope) (cs : List Char) : Option Incident :=
  let text := String.ofList (plain cs).2
  match word? text with
  | some _ => none
  | none =>
    match scope.find? text with
    | some v => if v.value.number?.isNone then some (.fault (.textOperand text)) else none
    | none => (Numeral.leadingRefusal? text).map .refusal

theorem readLeading_gives (text : String) :
    (Evaluation.ofExcept (Numeral.readLeading text)).Gives
      ((Numeral.readLeading text).toOption.getD .zero)
      ((Numeral.leadingRefusal? text).map Incident.refusal).toList := by
  obtain ⟨hread, hrefused⟩ := Numeral.readLeading_of_refusal text
  intro fault
  cases hrefusal : Numeral.leadingRefusal? text with
  | none =>
      obtain ⟨x, hx⟩ := hread hrefusal
      rw [hx]
      rfl
  | some e =>
      rw [hrefused e hrefusal]
      rfl

/-- An operand comes to its worth. -/
theorem number_gives (scope : Scope) (cs : List Char) :
    (number scope cs).Gives (worth scope cs) (incident? scope cs).toList := by
  unfold number worth incident?
  dsimp only
  generalize String.ofList (plain cs).2 = text
  split
  · rename_i htrue
    have hword : word? text = some (.ofBool true) := by simp [word?, htrue]
    rw [hword]
    exact gives_pure _
  · rename_i hfalse
    have hword : word? text = some (.ofBool false) := by simp [word?, hfalse]
    rw [hword]
    exact gives_pure _
  · have hword : word? text = none := by
      unfold word?
      split <;> simp_all
    rw [hword]
    dsimp only
    cases scope.find? text with
    | none => exact (readLeading_gives text).map _
    | some v =>
        dsimp only
        cases v.value.number? with
        | some x => exact gives_pure _
        | none => exact (gives_fail _).bind (gives_pure _)

/-- Whether two operands count as equal. -/
def same (scope : Scope) (left right : List Char) : Bool :=
  match text? scope left, text? scope right with
  | some s, some t => s == t
  | _, _ => (worth scope left).equals (worth scope right)

/-- What happens when two operands are looked at for whether they are equal.  Two text
variables are not numbers here. -/
def sameIncidents (scope : Scope) (left right : List Char) : List Incident :=
  match text? scope left, text? scope right with
  | some _, some _ => []
  | _, _ => (incident? scope left).toList ++ (incident? scope right).toList

theorem equal_gives (scope : Scope) (left right : List Char) :
    (equal scope left right).Gives (same scope left right) (sameIncidents scope left right) := by
  have hnumbers : (do
      return (← number scope left).equals (← number scope right) : Evaluation Bool).Gives
        ((worth scope left).equals (worth scope right))
        ((incident? scope left).toList ++ (incident? scope right).toList) :=
    (number_gives scope left).bind ((number_gives scope right).map _)
  unfold equal same sameIncidents
  cases text? scope left with
  | none => exact hnumbers
  | some s =>
      cases text? scope right with
      | none => exact hnumbers
      | some t => exact gives_pure _

end Operand

/-! ### Conditions -/

namespace Comparison

/-- Whether a comparison holds. -/
def truth (scope : Scope) : Comparison → Bool
  | .lone operand => !(Operand.worth scope operand).isZero
  | .related .equals left right => Operand.same scope left right
  | .related .differs left right => !Operand.same scope left right
  | .related .atMost left right => (Operand.worth scope left).atMost (Operand.worth scope right)
  | .related .below left right => (Operand.worth scope left).less (Operand.worth scope right)
  | .related .atLeast left right => (Operand.worth scope right).atMost (Operand.worth scope left)
  | .related .above left right => (Operand.worth scope right).less (Operand.worth scope left)

/-- What happens when a comparison is looked at, the left operand before the right. -/
def incidents (scope : Scope) : Comparison → List Incident
  | .lone operand => (Operand.incident? scope operand).toList
  | .related .equals left right => Operand.sameIncidents scope left right
  | .related .differs left right => Operand.sameIncidents scope left right
  | .related _ left right =>
    (Operand.incident? scope left).toList ++ (Operand.incident? scope right).toList

theorem holds_gives (scope : Scope) (c : Comparison) :
    (c.holds scope).Gives (c.truth scope) (c.incidents scope) := by
  have hboth (left right : List Char) (compare : Binary64 → Binary64 → Bool) :
      (do
        let x ← Operand.number scope left
        let y ← Operand.number scope right
        return compare x y : Evaluation Bool).Gives
          (compare (Operand.worth scope left) (Operand.worth scope right))
          ((Operand.incident? scope left).toList ++ (Operand.incident? scope right).toList) :=
    (Operand.number_gives scope left).bind ((Operand.number_gives scope right).map _)
  cases c with
  | lone operand => exact (Operand.number_gives scope operand).map _
  | related relation left right =>
      cases relation with
      | atMost => exact hboth left right Binary64.atMost
      | atLeast => exact hboth left right fun x y => y.atMost x
      | below => exact hboth left right Binary64.less
      | above => exact hboth left right fun x y => y.less x
      | differs => exact (Operand.equal_gives scope left right).map _
      | equals => exact Operand.equal_gives scope left right

end Comparison

namespace Condition

/-- What happens when alternatives are looked at, up to the first that holds. -/
def anyIncidents (scope : Scope) : List Comparison → List Incident
  | [] => []
  | c :: cs => c.incidents scope ++ if c.truth scope then [] else anyIncidents scope cs

/-- Whether all of a condition holds, each part by one of its alternatives. -/
def truth (scope : Scope) (condition : Condition) : Bool :=
  condition.all fun alternatives => alternatives.any (·.truth scope)

/-- What happens when a condition is looked at, up to the first part that does not hold. -/
def incidents (scope : Scope) : Condition → List Incident
  | [] => []
  | alternatives :: rest =>
    anyIncidents scope alternatives ++
      if alternatives.any (·.truth scope) then incidents scope rest else []

theorem anyHolds_gives (scope : Scope) (cs : List Comparison) :
    (anyHolds scope cs).Gives (cs.any (·.truth scope)) (anyIncidents scope cs) := by
  induction cs with
  | nil => exact gives_pure false
  | cons c cs ih =>
      rw [anyHolds, anyIncidents, List.any_cons]
      refine (c.holds_gives scope).bind ?_
      cases c.truth scope with
      | false => exact ih
      | true => exact gives_pure true

theorem holds_gives (scope : Scope) (condition : Condition) :
    (holds scope condition).Gives (truth scope condition) (incidents scope condition) := by
  induction condition with
  | nil => exact gives_pure true
  | cons alternatives rest ih =>
      rw [holds, incidents, truth, List.all_cons]
      refine (anyHolds_gives scope alternatives).bind ?_
      cases alternatives.any (·.truth scope) with
      | false => exact gives_pure false
      | true => exact ih

end Condition

/-! ### Templates -/

namespace Template

/-- The text that evaluation goes on with for a template. -/
def shown (scope : Scope) : Template → List Char
  | .nil => []
  | .literal c rest => c :: rest.shown scope
  | .reference name rest =>
    ((scope.find? (String.ofList name)).elim [] fun v => v.value.spelled.toList) ++
      rest.shown scope
  | .conditional condition body rest =>
    (if (Condition.ofChars condition).truth scope then body.shown scope else []) ++
      rest.shown scope

/-- What happens when a template is rendered. -/
def incidents (scope : Scope) : Template → List Incident
  | .nil => []
  | .literal _ rest => rest.incidents scope
  | .reference name rest =>
    (if (scope.find? (String.ofList name)).isNone then
      [.fault (.undefinedVariable (String.ofList name))] else []) ++ rest.incidents scope
  | .conditional condition body rest =>
    (Condition.ofChars condition).incidents scope ++
      ((if (Condition.ofChars condition).truth scope then body.incidents scope else []) ++
        rest.incidents scope)

/-- **Rendering a template comes to what is shown, with the incidents on the way.** -/
theorem render_gives (scope : Scope) (t : Template) :
    (t.render scope).Gives (t.shown scope) (t.incidents scope) := by
  induction t with
  | nil => exact gives_pure []
  | literal c rest ih => exact ih.map (c :: ·)
  | reference name rest ih =>
      rw [render, shown, incidents]
      cases scope.find? (String.ofList name) with
      | some v => exact ih.map (v.value.spelled.toList ++ ·)
      | none => exact (gives_fail _).bind ih
  | conditional condition body rest ihBody ihRest =>
      rw [render, shown, incidents]
      refine (Condition.holds_gives scope _).bind ?_
      cases (Condition.ofChars condition).truth scope with
      | false => exact ihRest
      | true => exact ihBody.bind (ihRest.map (body.shown scope ++ ·))

end Template

end TerminalConfig
