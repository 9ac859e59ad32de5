/-
A reader in the hands of a host.

A host need not read whole texts.  It may feed characters, take the end of a text where there
is none, ask for the entries that wait and start afresh, in any order, and it may go on
feeding a reader that has been told to stop.  `Lexer.acts` is what such a host sees, and
reading a text is one way to be such a host.

Whatever the host does and whatever its listener answers, the fields of the machine go
together and its entries are legible.  One action keeps that, and so do many.
-/
import TerminalConfig.Proofs.Lexer.Coherent
import TerminalConfig.Proofs.Lexer.Lines

namespace TerminalConfig

open ListValue Text

/-- What a host may do to a reader. -/
inductive Action
  | feed (c : Char)
  | finish
  | drain
  | reset
deriving DecidableEq, Repr

/-- The characters fed since the reader last started afresh, when `cs` were fed before. -/
def fedAfter (cs : List Char) : List Action → List Char
  | [] => cs
  | .feed c :: actions => fedAfter (cs ++ [c]) actions
  | .reset :: actions => fedAfter [] actions
  | .finish :: actions | .drain :: actions => fedAfter cs actions

theorem fedAfter_cons (cs : List Char) (action : Action) (actions : List Action) :
    fedAfter cs (action :: actions) = fedAfter (fedAfter cs [action]) actions := by
  cases action <;> rfl

/-- The key has only characters of keys, and the value no control characters but newlines. -/
structure Entry.IsLegible (e : Entry) : Prop where
  key : ∀ c ∈ e.key.toList, Scanner.isKeyChar c = true
  value : ∀ value ∈ e.value, TerminalConfig.IsLegible value

namespace Lexer

/-- Does one thing, and what is seen of it. -/
def act (l : Lexer) : Action → Lexer × List Event
  | .feed c => ((l.feed c).1, (l.feed c).2.toList.map .problem)
  | .finish => (l.finish.1, l.finish.2.map .problem)
  | .drain => (l.drain.1, l.drain.2.map .entry)
  | .reset => (l.reset, [])

/-- Does one thing after the other. -/
def acts (l : Lexer) : List Action → Lexer × List Event
  | [] => (l, [])
  | action :: actions =>
    (((l.act action).1.acts actions).1, (l.act action).2 ++ ((l.act action).1.acts actions).2)

variable {l : Lexer}

/-- Reading on is one way to use the reader. -/
theorem exists_acts_readOn (l : Lexer) (text : List Char) :
    ∃ actions, l.acts actions = l.readOn text := by
  induction text generalizing l with
  | nil => exact ⟨[.finish, .drain], by simp [acts, act, readOn]⟩
  | cons c cs ih =>
      rw [readOn]
      by_cases hstop : (l.feed c).1.drain.1.aborted = true
      · exact ⟨[.feed c, .drain], by simp [acts, act, hstop]⟩
      · obtain ⟨actions, hactions⟩ := ih (l.feed c).1.drain.1
        exact ⟨.feed c :: .drain :: actions, by simp [acts, act, hstop, hactions]⟩

/-! ### What the policy has no part in -/

theorem answer_fields (l : Lexer) (p : Problem) :
    (l.answer p).1.scanner = l.scanner ∧ (l.answer p).1.queue = l.queue := by
  unfold answer
  split <;> exact ⟨rfl, rfl⟩

theorem report_fields (l : Lexer) (ps : List Problem) :
    (l.report ps).1.scanner = l.scanner ∧ (l.report ps).1.queue = l.queue := by
  induction ps generalizing l with
  | nil => exact ⟨rfl, rfl⟩
  | cons p ps ih =>
      obtain ⟨hscanner, hqueue⟩ := answer_fields l p
      obtain ⟨hscanner', hqueue'⟩ := ih (l.answer p).1
      rw [report]
      dsimp only
      split
      · exact ⟨hscanner, hqueue⟩
      · exact ⟨hscanner'.trans hscanner, hqueue'.trans hqueue⟩

theorem finish_fields (l : Lexer) :
    l.finish.1.scanner = l.scanner ∧ l.finish.1.queue = l.queue ++ l.scanner.endEntry.toList :=
  report_fields _ _

/-- A character leads the machine where its step leads, and its entry joins the queue. -/
theorem feed_fields {P : Scanner → Prop} {c : Char} (h : (l.scanner.step c).Leads P) :
    (∃ next, P next ∧ (l.feed c).1.scanner = next.countLine c) ∧
      (l.feed c).1.queue = l.queue ++ (l.scanner.step c).entry.toList := by
  rw [feed]
  cases hstep : l.scanner.step c with
  | taken next entry =>
      rw [hstep] at h
      exact ⟨⟨next, h, rfl⟩, rfl⟩
  | faulty error entry onward halted =>
      rw [hstep] at h
      refine ⟨?_, (answer_fields _ _).2⟩
      dsimp only
      split
      · exact ⟨halted, h.2, rfl⟩
      · exact ⟨onward, h.1, rfl⟩

/-- The problem that is shown is what is wrong with the character, with its line. -/
theorem feed_problem (l : Lexer) (c : Char) :
    (l.feed c).2 = (l.scanner.step c).error.map fun error => ⟨l.scanner.line, error⟩ := by
  rw [feed]
  cases l.scanner.step c <;> rfl

/-! ### What every action keeps -/

/-- The reader is in order after `cs` have been fed to it. -/
structure InOrder (cs : List Char) (l : Lexer) : Prop where
  coherent : l.scanner.Coherent
  line : l.scanner.line = 1 + cs.count '\n'
  queue : ∀ e ∈ l.queue, e.IsLegible

end Lexer

theorem Scanner.Coherent.endEntry {s : Scanner} (h : s.Coherent) :
    ∀ e ∈ s.endEntry, e.IsLegible := by
  unfold Scanner.endEntry flagEntry
  intro e he
  split at he
  · cases he
    exact ⟨h.key, by simpa [valueEntry] using h.value⟩
  · split at he
    · cases he
    · cases he
      exact ⟨h.key, by simp⟩

namespace Lexer

open Scanner

variable {l : Lexer} {cs : List Char}

namespace InOrder

theorem start (policy : Policy) : ({ policy := policy } : Lexer).InOrder [] :=
  ⟨coherent_start, rfl, by simp⟩

theorem feed (h : l.InOrder cs) (c : Char) : (l.feed c).1.InOrder (cs ++ [c]) := by
  obtain ⟨⟨next, ⟨hcoherent, hline⟩, hscanner⟩, hqueue⟩ :=
    feed_fields ((h.coherent.step c).and (step_line (s := l.scanner)))
  refine ⟨?_, ?_, ?_⟩
  · rw [hscanner]
    exact hcoherent.countLine c
  · rw [hscanner, countLine_line, hline, h.line, List.count_append, List.count_singleton,
      Nat.add_assoc]
  · rw [hqueue, step_entry h.coherent.idle, List.forall_mem_append]
    refine ⟨h.queue, ?_⟩
    split
    · simpa using h.coherent.endEntry
    · simp

theorem finish (h : l.InOrder cs) : l.finish.1.InOrder cs := by
  obtain ⟨hscanner, hqueue⟩ := finish_fields l
  refine ⟨?_, ?_, ?_⟩
  · rw [hscanner]
    exact h.coherent
  · rw [hscanner]
    exact h.line
  · rw [hqueue, List.forall_mem_append]
    exact ⟨h.queue, by simpa using h.coherent.endEntry⟩

/-- Whatever is done, what is handed over was in the queue. -/
theorem act (h : l.InOrder cs) (action : Action) :
    (l.act action).1.InOrder (fedAfter cs [action]) ∧
      ∀ e ∈ entriesOf (l.act action).2, e.IsLegible := by
  cases action with
  | feed c => exact ⟨h.feed c, by simp [Lexer.act]⟩
  | finish => exact ⟨h.finish, by simp [Lexer.act]⟩
  | drain =>
      exact ⟨⟨h.coherent, h.line, by simp [Lexer.act, drain]⟩,
        by simpa [Lexer.act, drain] using h.queue⟩
  | reset => exact ⟨⟨coherent_start, rfl, by simp [Lexer.act, reset]⟩, by simp [Lexer.act]⟩

theorem acts (h : l.InOrder cs) (actions : List Action) :
    (l.acts actions).1.InOrder (fedAfter cs actions) ∧
      ∀ e ∈ entriesOf (l.acts actions).2, e.IsLegible := by
  induction actions generalizing l cs with
  | nil => exact ⟨h, by simp [Lexer.acts]⟩
  | cons action actions ih =>
      obtain ⟨hnext, hfirst⟩ := h.act action
      obtain ⟨hlast, hmore⟩ := ih hnext
      rw [fedAfter_cons, Lexer.acts, entriesOf_append, List.forall_mem_append]
      exact ⟨hlast, hfirst, hmore⟩

end InOrder

/-- **Whatever a host does with a reader and whatever its listener answers, the fields of the
machine go together.**  It counts the lines that were fed since the reader started afresh, a
newline joins a value as an escape only, and all entries are legible: those that wait, those
that have been handed over and those of whole texts. -/
theorem coherent_acts (policy : Policy) (actions : List Action) :
    let l := (({ policy := policy } : Lexer).acts actions).1
    let seen := (({ policy := policy } : Lexer).acts actions).2
    l.scanner.Coherent ∧
    l.scanner.line = 1 + (fedAfter [] actions).count '\n' ∧
    (∀ c, newlines (l.feed c).1.scanner.value ≤
      newlines l.scanner.value + (l.scanner.escapesNewline c).toNat) ∧
    (∀ e ∈ entriesOf seen ++ l.queue, e.IsLegible) ∧
    ∀ text, ∀ e ∈ (readSettings policy text).entries, e.IsLegible := by
  intro l seen
  have hstart := InOrder.start policy
  obtain ⟨horder, hseen⟩ := hstart.acts actions
  refine ⟨horder.coherent, horder.line, fun c => ?_, ?_, fun text => ?_⟩
  · obtain ⟨⟨next, hnext, hscanner⟩, -⟩ := feed_fields (horder.coherent.newlines_step c)
    rw [hscanner, countLine_value]
    exact hnext
  · exact List.forall_mem_append.mpr ⟨hseen, horder.queue⟩
  · obtain ⟨reading, hreading⟩ := exists_acts_readOn { policy := policy } text
    obtain ⟨-, hentries⟩ := hstart.acts reading
    rw [hreading] at hentries
    exact hentries

end Lexer

end TerminalConfig
