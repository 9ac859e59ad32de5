/-
Templates put behind one another.

A text with all its braces closed is read by itself.  Whatever is put behind it is read as if
it stood alone, so the template of the whole is the one template put before the other, and it
is rendered as the one and then the other.  A brace that is never closed is the end of what
counts, and so it is as if it were not there.

Rendering does not look at the fault that was there before.  What it comes to is the same
with any, and what it leaves is the last fault of its own, or else the one that was there.

`Braces` is what the reader keeps of a text at its top level.  The search for the brace that
closes a placeholder keeps less, since its recursion stops there, and the two are tied together
by `scan_of_cutClosing?` and `cutClosing?_eq_none_iff`.
-/
import TerminalConfig.Proofs.Template.Mentions
import TerminalConfig.Proofs.Template.Refusal
import TerminalConfig.Proofs.Template.Writing

namespace TerminalConfig

open Text

/-! ### Braces -/

/-- Where the reading of a text stands. -/
structure Braces where
  /-- The braces that are open. -/
  depth : Nat := 0
  /-- A backslash came right before. -/
  escaped : Bool := false
deriving DecidableEq, Repr

namespace Braces

/-- One character.  A closing brace stands for itself if none is open. -/
def step (b : Braces) (c : Char) : Braces :=
  if b.escaped then { b with escaped := false }
  else if c = '\\' then { b with escaped := true }
  else if c = '{' then { b with depth := b.depth + 1 }
  else if c = '}' then { b with depth := b.depth - 1 }
  else b

def scan (b : Braces) (cs : List Char) : Braces :=
  cs.foldl step b

/-- The text leaves a brace open at every point. -/
def StaysOpen (b : Braces) (cs : List Char) : Prop :=
  ∀ before, before <+: cs → (b.scan before).depth ≠ 0

theorem scan_cons (b : Braces) (c : Char) (cs : List Char) :
    b.scan (c :: cs) = (b.step c).scan cs := rfl

theorem step_of_ne {depth : Nat} {c : Char} (hescape : c ≠ '\\') (hopen : c ≠ '{')
    (hclose : c ≠ '}') : step ⟨depth, false⟩ c = ⟨depth, false⟩ := by
  simp [step, hescape, hopen, hclose]

theorem staysOpen_cons {b : Braces} {c : Char} {cs : List Char} :
    b.StaysOpen (c :: cs) ↔ b.depth ≠ 0 ∧ (b.step c).StaysOpen cs := by
  unfold StaysOpen
  constructor
  · intro h
    exact ⟨h [] List.nil_prefix, fun before hbefore =>
      h (c :: before) (List.cons_prefix_cons.mpr ⟨rfl, hbefore⟩)⟩
  · rintro ⟨hnil, hrest⟩ before hbefore
    obtain rfl | ⟨rest, rfl, hprefix⟩ := List.prefix_cons_iff.mp hbefore
    · exact hnil
    · exact hrest rest hprefix

theorem staysOpen_nil {b : Braces} : b.StaysOpen [] ↔ b.depth ≠ 0 := by
  simp [StaysOpen, scan]

theorem StaysOpen.depth_ne {b : Braces} {cs : List Char} (h : b.StaysOpen cs) : b.depth ≠ 0 :=
  h [] List.nil_prefix

end Braces

/-! ### The brace that closes a placeholder -/

namespace Placeholder

variable {depth : Nat} {cs e rest : List Char}

/-- What is put behind a text is put behind the rest of it. -/
theorem cutClosing?_append (h : cutClosing? depth cs = some (e, rest)) (more : List Char) :
    cutClosing? depth (cs ++ more) = some (e, rest ++ more) := by
  fun_induction cutClosing? depth cs generalizing e with
  | case1 => cases h
  | case2 => cases h
  | case3 depth c cs ih =>
      obtain ⟨before, hcut, rfl⟩ := exists_of_map_cut (f := fun e => '\\' :: c :: e) h
      rw [List.cons_append, List.cons_append, cutClosing?, ih hcut]
      rfl
  | case4 depth cs ih =>
      obtain ⟨before, hcut, rfl⟩ := exists_of_map_cut h
      rw [List.cons_append, cutClosing?, ih hcut]
      rfl
  | case5 cs =>
      cases h
      rw [List.cons_append, cutClosing?]
  | case6 cs depth ih =>
      obtain ⟨before, hcut, rfl⟩ := exists_of_map_cut h
      rw [List.cons_append, cutClosing?]
      dsimp only
      rw [ih hcut]
      rfl
  | case7 depth c cs hlone hescape hopen hclose ih =>
      obtain ⟨before, hcut, rfl⟩ := exists_of_map_cut h
      have hc := ne_backslash hlone hescape
      have hplain : Template.isMark c = false := by simp_all [Template.isMark]
      have hpass := Balanced.plain hplain depth (cs ++ more)
      rw [ih hcut] at hpass
      exact hpass

/-- The reader is at its top level again after the brace that closes. -/
theorem scan_of_cutClosing? (h : cutClosing? depth cs = some (e, rest)) :
    Braces.scan ⟨depth + 1, false⟩ cs = Braces.scan {} rest := by
  fun_induction cutClosing? depth cs generalizing e with
  | case1 => cases h
  | case2 => cases h
  | case3 depth c cs ih =>
      obtain ⟨before, hcut, -⟩ := exists_of_map_cut (f := fun e => '\\' :: c :: e) h
      exact ih hcut
  | case4 depth cs ih =>
      obtain ⟨before, hcut, -⟩ := exists_of_map_cut h
      exact ih hcut
  | case5 cs =>
      cases h
      rfl
  | case6 cs depth ih =>
      obtain ⟨before, hcut, -⟩ := exists_of_map_cut h
      exact ih hcut
  | case7 depth c cs hlone hescape hopen hclose ih =>
      obtain ⟨before, hcut, -⟩ := exists_of_map_cut h
      rw [Braces.scan_cons,
        Braces.step_of_ne (ne_backslash hlone hescape) hopen hclose]
      exact ih hcut

/-- There is no brace that closes exactly if a brace is open at every point. -/
theorem cutClosing?_eq_none_iff :
    cutClosing? depth cs = none ↔ Braces.StaysOpen ⟨depth + 1, false⟩ cs := by
  fun_induction cutClosing? depth cs with
  | case1 => simp [Braces.staysOpen_nil]
  | case2 => simp [Braces.staysOpen_cons, Braces.staysOpen_nil, Braces.step]
  | case3 depth c cs ih =>
      simpa [Braces.staysOpen_cons, Braces.step] using ih
  | case4 depth cs ih =>
      simpa [Braces.staysOpen_cons, Braces.step] using ih
  | case5 cs =>
      simp only [reduceCtorEq, false_iff, Braces.staysOpen_cons, not_and]
      exact fun _ hopen => hopen.depth_ne rfl
  | case6 cs depth ih =>
      simpa [Braces.staysOpen_cons, Braces.step] using ih
  | case7 depth c cs hlone hescape hopen hclose ih =>
      rw [Option.map_eq_none_iff, ih, Braces.staysOpen_cons,
        Braces.step_of_ne (ne_backslash hlone hescape) hopen hclose]
      simp

end Placeholder

namespace Template

/-! ### Reading -/

/-- One template before another. -/
def append : Template → Template → Template
  | .nil, after => after
  | .literal c rest, after => .literal c (rest.append after)
  | .reference name rest, after => .reference name (rest.append after)
  | .conditional condition body rest, after => .conditional condition body (rest.append after)

theorem append_nil (t : Template) : t.append .nil = t := by
  induction t with
  | nil => rfl
  | literal c rest ih => rw [append, ih]
  | reference name rest ih => rw [append, ih]
  | conditional condition body rest _ ih => rw [append, ih]

theorem ofChars_unclosed {tail : List Char} (h : Braces.StaysOpen ⟨1, false⟩ tail) :
    ofChars ('{' :: tail) = .nil := by
  have hcut : Placeholder.cutClosing? 0 tail = none := Placeholder.cutClosing?_eq_none_iff.mpr h
  rw [ofChars]
  split <;> simp_all

/-- **A text with all its braces closed is read by itself**, and so is what is put behind it. -/
theorem ofChars_append {a : List Char} (ha : Braces.scan {} a = {}) (b : List Char) :
    ofChars (a ++ b) = (ofChars a).append (ofChars b) := by
  fun_induction ofChars a with
  | case1 => rfl
  | case2 => cases ha
  | case3 c cs ih =>
      rw [List.cons_append, List.cons_append, ofChars, append, ih ha]
  | case4 cs hcut =>
      have hopen := Placeholder.cutClosing?_eq_none_iff.mp hcut cs (List.prefix_refl cs)
      exact absurd (congrArg Braces.depth ha) hopen
  | case5 cs expression rest hcut _ hread ih =>
      have hrest := (Placeholder.scan_of_cutClosing? hcut).symm.trans ha
      rw [List.cons_append, ofChars_placeholder (Placeholder.cutClosing?_append hcut b), hread,
        ih hrest]
  | case6 cs expression rest hcut _ name hread ih =>
      have hrest := (Placeholder.scan_of_cutClosing? hcut).symm.trans ha
      rw [List.cons_append, ofChars_reference (Placeholder.cutClosing?_append hcut b) hread,
        append, ih hrest]
  | case7 cs expression rest hcut _ condition body hread _ ihBody ihRest =>
      have hrest := (Placeholder.scan_of_cutClosing? hcut).symm.trans ha
      rw [List.cons_append, ofChars_conditional (Placeholder.cutClosing?_append hcut b) hread,
        append, ihRest hrest]
  | case8 c cs hlone hescape hbrace ih =>
      have hc : c ≠ '\\' := ne_backslash hlone hescape
      have hstep : Braces.step {} c = {} := by
        by_cases hclose : c = '}'
        · rw [hclose]
          rfl
        · exact Braces.step_of_ne hc hbrace hclose
      rw [Braces.scan_cons, hstep] at ha
      rw [List.cons_append, ofChars_cons_of_ne hc hbrace, append, ih ha]

/-! ### Rendering -/

/-- One template before another is rendered as the one and then the other. -/
theorem render_append (scope : Scope) (t u : Template) :
    (t.append u).render scope = do
      let x ← t.render scope
      let y ← u.render scope
      return x ++ y := by
  induction t with
  | nil => simp [append, render]
  | literal c rest ih => simp [append, render, ih]
  | reference name rest ih =>
      rw [append, render, render, ih]
      cases scope.find? (String.ofList name) with
      | some v => simp only [bind_assoc, pure_bind, List.append_assoc]
      | none => simp only [bind_assoc]
  | conditional condition body rest _ ih =>
      rw [append, render, render, ih, bind_assoc]
      refine congrArg _ (funext fun holds => ?_)
      cases holds with
      | false => rfl
      | true => simp only [if_true, bind_assoc, pure_bind, List.append_assoc]

end Template

/-! ### The fault that was there before -/

namespace Evaluation

variable {α : Type} {a : α} {m : Evaluation α} {incidents : List Incident}

theorem outcome_or (a : α) (incidents : List Incident) (fault : Option Fault) :
    outcome a incidents fault =
      ((outcome a incidents none).1, (outcome a incidents none).2.or fault) := by
  induction incidents generalizing fault with
  | nil => rfl
  | cons incident incidents ih =>
      cases incident with
      | fault f =>
          -- Its own fault hides the one before, here and in the run that starts without one.
          rw [outcome, outcome, ih (some f), Option.or_assoc]
          rfl
      | refusal error => rfl

/-- What an evaluation comes to does not depend on the fault before it, which is left if the
evaluation has none of its own. -/
theorem Gives.start_or (h : m.Gives a incidents) (fault : Option Fault) :
    m.start fault = ((m.start none).1, (m.start none).2.or fault) := by
  rw [h fault, h none]
  exact outcome_or a incidents fault

end Evaluation

namespace Template

/-- What a text comes to that is read as a template and rendered, and the fault after it. -/
def expand (scope : Scope) (text : List Char) (fault : Option Fault) :
    Except NumeralError (List Char) × Option Fault :=
  ((ofChars text).render scope).start fault

/-- The fault before matters only if it is left. -/
theorem expand_or (scope : Scope) (text : List Char) (fault : Option Fault) :
    expand scope text fault =
      ((expand scope text none).1, (expand scope text none).2.or fault) :=
  ((ofChars text).render_gives scope).start_or fault

theorem expand_append (scope : Scope) {a : List Char} (ha : Braces.scan {} a = {}) (b : List Char)
    (fault : Option Fault) :
    expand scope (a ++ b) fault =
      match expand scope a fault with
      | (.ok x, left) =>
        match expand scope b left with
        | (.ok y, after) => (.ok (x ++ y), after)
        | (.error error, after) => (.error error, after)
      | (.error error, left) => (.error error, left) := by
  unfold expand
  rw [ofChars_append ha, render_append, Evaluation.start_bind]
  rcases ((ofChars a).render scope).start fault with ⟨_ | x, left⟩
  · rfl
  · dsimp only
    rw [Evaluation.start_bind]
    rcases ((ofChars b).render scope).start left with ⟨_ | y, after⟩ <;> rfl

theorem expand_append_unclosed (scope : Scope) {a rest : List Char} (ha : Braces.scan {} a = {})
    (hopen : Braces.StaysOpen ⟨1, false⟩ rest) (fault : Option Fault) :
    expand scope (a ++ '{' :: rest) fault = expand scope a fault := by
  unfold expand
  rw [ofChars_append ha, ofChars_unclosed hopen, append_nil]

/-- **Rendering is compositional, and never looks at the fault before it.**  Let all braces of
`a` be closed, and let it not end in a backslash.

  * Rendering `a ++ b` is rendering `a`, and then `b` from the fault that `a` has left, with the
    texts put together.  It is stopped only by what stops one of them.
  * What any text comes to is the same whatever the fault before.
  * The fault after both is that of `b`, or else that of `a`, or else the one before.  If `a`
    is stopped, `b` is not looked at.
  * If `b` is a brace that is never closed, it is as if there were only `a`. -/
theorem expand_joined (scope : Scope) {a : List Char} (ha : Braces.scan {} a = {}) (b : List Char)
    (fault : Option Fault) :
    (expand scope (a ++ b) fault =
      match expand scope a fault with
      | (.ok x, left) =>
        match expand scope b left with
        | (.ok y, after) => (.ok (x ++ y), after)
        | (.error error, after) => (.error error, after)
      | (.error error, left) => (.error error, left)) ∧
    (∀ error, (expand scope (a ++ b) fault).1 = .error error →
      (expand scope a fault).1 = .error error ∨ (expand scope b fault).1 = .error error) ∧
    (∀ text before, (expand scope text before).1 = (expand scope text fault).1 ∧
      (expand scope text before).2 = (expand scope text none).2.or before) ∧
    (∀ x, (expand scope a fault).1 = .ok x →
      (expand scope (a ++ b) fault).2 =
        (expand scope b none).2.or ((expand scope a none).2.or fault)) ∧
    (∀ error, (expand scope a fault).1 = .error error →
      expand scope (a ++ b) fault = (.error error, (expand scope a none).2.or fault)) ∧
    ∀ rest, b = '{' :: rest → Braces.StaysOpen ⟨1, false⟩ rest →
      expand scope (a ++ b) fault = expand scope a fault := by
  have hjoined := expand_append scope ha b fault
  rw [expand_or scope a fault] at hjoined
  refine ⟨expand_append scope ha b fault, fun error herror => ?_, fun text before => ?_,
    fun x hx => ?_, fun error herror => ?_, ?_⟩
  · rw [hjoined] at herror
    rw [expand_or scope a fault, expand_or scope b fault]
    cases hfirst : (expand scope a none).1 with
    | error e =>
        rw [hfirst] at herror
        exact .inl herror
    | ok x =>
        rw [hfirst] at herror
        dsimp only at herror
        rw [expand_or scope b] at herror
        cases hrest : (expand scope b none).1 with
        | error e =>
            rw [hrest] at herror
            exact .inr herror
        | ok y =>
            rw [hrest] at herror
            cases herror
  · rw [expand_or scope text before, expand_or scope text fault]
    exact ⟨rfl, rfl⟩
  · rw [expand_or scope a fault] at hx
    rw [hjoined, hx]
    dsimp only
    rw [expand_or scope b]
    cases (expand scope b none).1 <;> rfl
  · rw [expand_or scope a fault] at herror
    rw [hjoined, herror]
  · rintro rest rfl hopen
    exact expand_append_unclosed scope ha hopen fault

/-- A conditional around a placeholder and a name with an escaped brace, behind them an operand
that is no number, or a brace that is closed only after a backslash. -/
theorem expand_joined_nested :
    let scope := Scope.ofVariables [⟨"n", .int32 5⟩, ⟨"s", .text "x"⟩]
    let a := "\x7b?n>3:[\x7bn\x7d]\x7d\x7bx\\\x7d\x7d".toList
    let b := "\x7b?s:no\x7d!".toList
    let rest := "\x7bn\x7d\\\x7d".toList
    let before := some (Fault.reported "before")
    Braces.scan {} a = {} ∧ Braces.StaysOpen ⟨1, false⟩ rest ∧
      expand scope a before = (.ok "[5]".toList, some (.undefinedVariable "x\x7d")) ∧
      expand scope (a ++ b) before = (.ok "[5]!".toList, some (.textOperand "s")) ∧
      expand scope (a ++ '{' :: rest) before = expand scope a before := by
  intro scope a b rest before
  have hclosed : Braces.scan {} a = {} := by decide
  have hopen : Braces.StaysOpen ⟨1, false⟩ rest :=
    Placeholder.cutClosing?_eq_none_iff.mp (by decide +kernel)
  have hfirst : expand scope a before = (.ok "[5]".toList, some (.undefinedVariable "x\x7d")) := by
    decide +kernel
  have hsecond : expand scope b (some (.undefinedVariable "x\x7d")) =
      (.ok ['!'], some (.textOperand "s")) := by
    decide +kernel
  obtain ⟨hjoined, -⟩ := expand_joined scope hclosed b before
  obtain ⟨-, -, -, -, -, hunclosed⟩ := expand_joined scope hclosed ('{' :: rest) before
  refine ⟨hclosed, hopen, hfirst, ?_, hunclosed rest rfl hopen⟩
  rw [hjoined, hfirst]
  dsimp only
  rw [hsecond]
  rfl

end Template

/-! ### Interpolating -/

theorem interpolate_eq_expand (template : String) (scope : Scope) :
    interpolate template scope =
      match Template.expand scope (template.toList.filter fun c => !isControl c) none with
      | (.ok text, fault) => .ok ⟨String.ofList text, fault⟩
      | (.error error, _) => .error error := rfl

/-- A template with all its braces closed can be interpolated by itself. -/
theorem interpolate_append {a : String} (scope : Scope)
    (ha : Braces.scan {} (a.toList.filter fun c => !isControl c) = {}) (b : String) :
    interpolate (a ++ b) scope = do
      let x ← interpolate a scope
      let y ← interpolate b scope
      return ⟨x.text ++ y.text, y.fault.or x.fault⟩ := by
  rw [interpolate_eq_expand, interpolate_eq_expand, interpolate_eq_expand, String.toList_append,
    List.filter_append, Template.expand_append scope ha]
  rcases Template.expand scope (a.toList.filter fun c => !isControl c) none with ⟨_ | x, left⟩
  · rfl
  · dsimp only
    rw [Template.expand_or]
    rcases Template.expand scope (b.toList.filter fun c => !isControl c) none with ⟨_ | y, after⟩
    · rfl
    · simp [bind, Except.bind, pure, Except.pure]

end TerminalConfig
