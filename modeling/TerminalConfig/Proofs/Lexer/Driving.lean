/-
Driving a reader.

A text can be read at once, by a reader that is asked for one entry after the other, or by a
host that feeds the characters and takes the entries when it likes.  The three show the same.

For the reader that is asked, `left` is what it has yet to show.  A request shows the front of
it and leaves the rest, and a request without an entry leaves nothing.  So after any number of
requests there has been seen the front of what the whole text shows, with as many entries as
there were requests, until there are no more.  What is left when nothing has been asked does not
depend on what the lexer was used for before, because the first request starts it afresh.

For the host that feeds, the entries that it has taken and those that wait are together the
entries of what has been fed.
-/
import TerminalConfig.Lexer.Reader
import TerminalConfig.Proofs.Lexer.Actions
import TerminalConfig.Proofs.Lexer.Brackets
import Mathlib.Algebra.GroupWithZero.Nat

namespace TerminalConfig

variable {lexer : Lexer} {reader : Reader} {text : List Char}

/-! ### Asking -/

/-- What is seen of a request, its problems before its entry. -/
def Request.seen (request : Request) : List Event :=
  request.problems.map .problem ++ request.entry.toList.map .entry

namespace Reader

/-- Asks for several entries, one after the other: the lexer and the reader after it, and what is
seen. -/
def ask (reader : Reader) (lexer : Lexer) : Nat → Lexer × Reader × List Event
  | 0 => (lexer, reader, [])
  | n + 1 =>
    let request := reader.next lexer
    let (lexer, reader, events) := request.reader.ask request.lexer n
    (lexer, reader, request.seen ++ events)

/-- Asks in several turns, and what is seen in each. -/
def askInTurns (reader : Reader) (lexer : Lexer) : List Nat → List (List Event)
  | [] => []
  | n :: turns =>
    let (lexer, reader, events) := reader.ask lexer n
    events :: reader.askInTurns lexer turns

/-- What is yet to be seen. -/
def left (lexer : Lexer) : Reader → List Event
  | .unopened text => (lexer.read text).2
  | .reading ready rest =>
    ready.map .entry ++ if lexer.aborted then [] else (lexer.readOn rest).2
  | .closing ready => ready.map .entry
  | .done => []

/-! ### One request -/

theorem seek_left (lexer : Lexer) (text : List Char) :
    (lexer.readOn text).2 =
      (seek lexer text).seen ++ (seek lexer text).reader.left (seek lexer text).lexer := by
  induction text generalizing lexer with
  | nil =>
      rw [Lexer.readOn, seek]
      cases hqueue : lexer.finish.1.queue with
      | nil => simp [Lexer.drain, hqueue, Request.seen, left]
      | cons e ready => simp [Lexer.drain, hqueue, Request.seen, left]
  | cons c cs ih =>
      rw [Lexer.readOn, seek]
      cases hqueue : (lexer.feed c).1.queue with
      | nil =>
          by_cases hstop : (lexer.feed c).1.aborted = true
          · simp [Lexer.drain, hqueue, hstop, Request.seen, left]
          · simp [Lexer.drain, hqueue, hstop, Request.seen, ih]
      | cons e ready =>
          by_cases hstop : (lexer.feed c).1.aborted = true
          · simp [Lexer.drain, hqueue, hstop, Request.seen, left]
          · simp [Lexer.drain, hqueue, hstop, Request.seen, left]

/-- **A request shows the front of what is left, and leaves the rest.** -/
theorem next_left (reader : Reader) (lexer : Lexer) :
    reader.left lexer =
      (reader.next lexer).seen ++ (reader.next lexer).reader.left (reader.next lexer).lexer := by
  cases reader with
  | unopened text => exact seek_left lexer.reset text
  | reading ready rest =>
      cases ready with
      | cons e ready => rfl
      | nil =>
          rw [next]
          by_cases hstop : lexer.aborted = true
          · simp [left, hstop, Request.seen]
          · rw [if_neg hstop, ← seek_left]
            simp [left, hstop]
  | closing ready =>
      cases ready with
      | cons e ready => rfl
      | nil => rfl
  | done => rfl

theorem seek_reader_of_entry_none (h : (seek lexer text).entry = none) :
    (seek lexer text).reader = .done := by
  induction text generalizing lexer with
  | nil =>
      rw [seek] at h ⊢
      cases hqueue : lexer.finish.1.queue with
      | nil => simp [Lexer.drain, hqueue]
      | cons e ready => simp [Lexer.drain, hqueue] at h
  | cons c cs ih =>
      rw [seek] at h ⊢
      cases hqueue : (lexer.feed c).1.queue with
      | nil =>
          by_cases hstop : (lexer.feed c).1.aborted = true
          · simp [Lexer.drain, hqueue, hstop]
          · simp only [Lexer.drain, hqueue, hstop, Bool.false_eq_true] at h ⊢
            exact ih h
      | cons e ready => simp [Lexer.drain, hqueue] at h

/-- After a request without an entry nothing is left. -/
theorem next_reader_of_entry_none (h : (reader.next lexer).entry = none) :
    (reader.next lexer).reader = .done := by
  cases reader with
  | unopened text => exact seek_reader_of_entry_none h
  | reading ready rest =>
      cases ready with
      | cons e ready => cases h
      | nil =>
          rw [next] at h ⊢
          by_cases hstop : lexer.aborted = true
          · rw [if_pos hstop]
          · rw [if_neg hstop] at h ⊢
            exact seek_reader_of_entry_none h
  | closing ready =>
      cases ready with
      | cons e ready => cases h
      | nil => rfl
  | done => rfl

end Reader

theorem Request.entriesOf_seen (request : Request) :
    entriesOf request.seen = request.entry.toList := by
  rw [seen, entriesOf_append, entriesOf_problems, entriesOf_entries, List.nil_append]

namespace Reader

/-! ### Several requests -/

theorem ask_left (reader : Reader) (lexer : Lexer) (n : Nat) :
    reader.left lexer =
      (reader.ask lexer n).2.2 ++ (reader.ask lexer n).2.1.left (reader.ask lexer n).1 := by
  induction n generalizing reader lexer with
  | zero => rfl
  | succ n ih =>
      rw [next_left, ih, ← List.append_assoc]
      rfl

/-- **There are as many entries as requests**, as long as there are entries left. -/
theorem entriesOf_ask (reader : Reader) (lexer : Lexer) (n : Nat) :
    entriesOf (reader.ask lexer n).2.2 = (entriesOf (reader.left lexer)).take n := by
  induction n generalizing reader lexer with
  | zero => rfl
  | succ n ih =>
      have hseen : entriesOf (reader.ask lexer (n + 1)).2.2 =
          (reader.next lexer).entry.toList ++ (entriesOf
            ((reader.next lexer).reader.left (reader.next lexer).lexer)).take n := by
        rw [← ih, ← Request.entriesOf_seen, ← entriesOf_append]
        rfl
      rw [hseen, next_left reader lexer, entriesOf_append, Request.entriesOf_seen]
      cases hentry : (reader.next lexer).entry with
      | some e => rfl
      | none =>
          rw [next_reader_of_entry_none hentry]
          simp [left]

/-- With more requests than entries nothing is left. -/
theorem left_ask_eq_nil {n : Nat} (h : (entriesOf (reader.left lexer)).length < n) :
    (reader.ask lexer n).2.1.left (reader.ask lexer n).1 = [] := by
  induction n generalizing reader lexer with
  | zero => exact absurd h (Nat.not_lt_zero _)
  | succ n ih =>
      rw [next_left, entriesOf_append, Request.entriesOf_seen] at h
      cases hentry : (reader.next lexer).entry with
      | some e =>
          rw [hentry, Option.toList_some, List.singleton_append, List.length_cons] at h
          exact ih (Nat.lt_of_succ_lt_succ h)
      | none =>
          have hrest := ask_left (reader.next lexer).reader (reader.next lexer).lexer n
          rw [next_reader_of_entry_none hentry] at hrest
          have hnil := (List.append_eq_nil_iff.mp hrest.symm).2
          rw [← next_reader_of_entry_none hentry] at hnil
          exact hnil

theorem ask_add (reader : Reader) (lexer : Lexer) (m n : Nat) :
    (reader.ask lexer (m + n)).2.2 =
      (reader.ask lexer m).2.2 ++
        ((reader.ask lexer m).2.1.ask (reader.ask lexer m).1 n).2.2 := by
  induction m generalizing reader lexer with
  | zero => rw [Nat.zero_add]; rfl
  | succ m ih =>
      rw [Nat.add_right_comm, ask, ask]
      simp only [ih, List.append_assoc]

/-- It makes no difference in how many turns a reader is asked. -/
theorem flatten_askInTurns (reader : Reader) (lexer : Lexer) (turns : List Nat) :
    (reader.askInTurns lexer turns).flatten = (reader.ask lexer turns.sum).2.2 := by
  induction turns generalizing reader lexer with
  | nil => rfl
  | cons n turns ih =>
      rw [List.sum_cons, ask_add, ← ih]
      rfl

end Reader

/-! ### Feeding -/

/-- A host that only feeds and takes entries. -/
def Feeding (actions : List Action) : Prop :=
  ∀ action ∈ actions, action ≠ .finish ∧ action ≠ .reset

/-- What such a host has fed comes behind what was fed before. -/
theorem Feeding.fedAfter {actions : List Action} (h : Feeding actions) (cs : List Char) :
    fedAfter cs actions = cs ++ fedAfter [] actions := by
  induction actions generalizing cs with
  | nil => exact (List.append_nil cs).symm
  | cons action actions ih =>
      obtain ⟨⟨hfinish, hreset⟩, hrest⟩ := List.forall_mem_cons.mp h
      cases action with
      | feed c =>
          rw [TerminalConfig.fedAfter, TerminalConfig.fedAfter, ih hrest, ih hrest ([] ++ [c]),
            List.append_assoc]
          rfl
      | drain => exact ih hrest cs
      | finish => exact absurd rfl hfinish
      | reset => exact absurd rfl hreset

namespace Lexer

variable {l : Lexer}

theorem acts_append (l : Lexer) (first rest : List Action) :
    (l.acts (first ++ rest)).2 = (l.acts first).2 ++ ((l.acts first).1.acts rest).2 := by
  induction first generalizing l with
  | nil => rfl
  | cons action first ih => rw [List.cons_append, acts, acts, ih, List.append_assoc]

/-- The host has seen the problems of `text`, and the entries that it has taken and those that
wait are its entries. -/
structure Shows (before after : Lexer) (events : List Event) (text : List Char) : Prop where
  scanner : after.scanner = (before.scanner.run text).1
  policy : after.policy = before.policy
  running : after.aborted = false
  problems : problemsOf events = problemsOf (before.scanner.run text).2
  entries : entriesOf events ++ after.queue = before.queue ++ entriesOf (before.scanner.run text).2

theorem shows_feed (hnever : ∀ heard, l.policy.stops heard = false) (hrunning : l.aborted = false)
    (c : Char) : Shows l (l.feed c).1 ((l.feed c).2.toList.map .problem) [c] := by
  obtain ⟨hscanner, hpolicy, hstill⟩ := feed_never hnever hrunning c
  obtain ⟨-, hqueue⟩ := feed_fields (Scanner.step_line (s := l.scanner) (c := c))
  have hrun : (l.scanner.run [c]).2 =
      (l.feed c).2.toList.map .problem ++ (l.scanner.step c).entry.toList.map .entry := by
    rw [Scanner.run_singleton, Scanner.seen_advance, feed_problem]
    cases (l.scanner.step c).error <;> rfl
  refine ⟨?_, hpolicy, hstill, ?_, ?_⟩
  · rw [hscanner, Scanner.run_singleton]
  · rw [hrun, problemsOf_append, problemsOf_entries, List.append_nil]
  · rw [hrun, hqueue, entriesOf_append, entriesOf_problems, entriesOf_entries]
    rfl

theorem shows_drain (hrunning : l.aborted = false) :
    Shows l l.drain.1 (l.drain.2.map .entry) [] :=
  ⟨rfl, rfl, hrunning, problemsOf_entries _, by simp [drain]⟩

namespace Shows

variable {before mid after : Lexer} {events more : List Event} {first rest : List Char}

theorem refl (hrunning : l.aborted = false) : Shows l l [] [] :=
  ⟨rfl, rfl, hrunning, rfl, by simp⟩

/-- One part of the text after another. -/
theorem append (h : Shows before mid events first) (hmore : Shows mid after more rest) :
    Shows before after (events ++ more) (first ++ rest) where
  scanner := by rw [hmore.scanner, h.scanner, Scanner.run_append_eq]
  policy := hmore.policy.trans h.policy
  running := hmore.running
  problems := by
    rw [Scanner.run_append_eq, problemsOf_append, problemsOf_append, h.problems, hmore.problems,
      h.scanner]
  entries := by
    rw [Scanner.run_append_eq, entriesOf_append, entriesOf_append, List.append_assoc,
      hmore.entries, h.scanner, ← List.append_assoc, h.entries, List.append_assoc]

end Shows

/-- **What a host has seen and what waits for it are what the machine shows**, however it takes
the entries. -/
theorem shows_acts (hnever : ∀ heard, l.policy.stops heard = false) (hrunning : l.aborted = false)
    {actions : List Action} (hfeeding : Feeding actions) :
    Shows l (l.acts actions).1 (l.acts actions).2 (fedAfter [] actions) := by
  induction actions generalizing l with
  | nil => exact .refl hrunning
  | cons action actions ih =>
      obtain ⟨⟨hfinish, hreset⟩, hall⟩ := List.forall_mem_cons.mp hfeeding
      have hrest : Feeding actions := hall
      cases action with
      | feed c =>
          have hfirst := shows_feed hnever hrunning c
          have hmore := ih (by rwa [hfirst.policy]) hfirst.running hrest
          rw [fedAfter, hrest.fedAfter]
          exact hfirst.append hmore
      | drain =>
          have hfirst := shows_drain hrunning
          have hmore := ih (by rwa [hfirst.policy]) hfirst.running hrest
          exact hfirst.append hmore
      | finish => exact absurd rfl hfinish
      | reset => exact absurd rfl hreset

/-- At the end of the text all problems of the machine are shown, and its last entry waits. -/
theorem finish_never (hnever : ∀ heard, l.policy.stops heard = false)
    (hrunning : l.aborted = false) : l.finish.2 = l.scanner.endProblems := by
  obtain ⟨hshown, -, -⟩ := report_eq (l := l.enqueue l.scanner.endEntry) hrunning
    l.scanner.endProblems
  have hpolicy : (l.enqueue l.scanner.endEntry).policy.stops = fun _ => false := funext hnever
  rw [hpolicy, upToStop_of_not_stopsWithin stopsWithin_never, problemsOf_problems] at hshown
  exact hshown

/-- The end of the text, and what is taken after it. -/
theorem Shows.acts_end {after : Lexer} {events : List Event}
    (h : Shows l after events text) (hnever : ∀ heard, l.policy.stops heard = false) :
    entriesOf (events ++ (after.acts [.finish, .drain]).2) =
        l.queue ++ entriesOf (l.scanner.seen text) ∧
      problemsOf (events ++ (after.acts [.finish, .drain]).2) =
        problemsOf (l.scanner.seen text) := by
  have hproblems : after.finish.2 = after.scanner.endProblems :=
    finish_never (by rwa [h.policy]) h.running
  obtain ⟨-, hqueue⟩ := finish_fields after
  have hlast : (after.acts [.finish, .drain]).2 = after.scanner.endProblems.map .problem ++
      (after.queue ++ after.scanner.endEntry.toList).map .entry := by
    rw [acts, acts, acts, act, act, drain, hproblems, hqueue, List.append_nil]
  rw [hlast, Scanner.seen, ← h.scanner]
  simp only [entriesOf_append, problemsOf_append, entriesOf_problems, problemsOf_problems,
    entriesOf_entries, problemsOf_entries, List.nil_append, List.append_nil]
  refine ⟨?_, by rw [h.problems]⟩
  rw [← List.append_assoc, h.entries, List.append_assoc]

/-- A policy that does not stop from now on stops nowhere in the history of a text. -/
theorem stopsWithin_of_goesOn {stops : List Problem → Bool} {heard : List Problem}
    (h : ∀ more, stops (heard ++ more) = false) (events : List Event) :
    stopsWithin stops heard events = false := by
  induction events generalizing heard with
  | nil => rfl
  | cons event events ih =>
      cases event with
      | entry e => exact ih h
      | problem p =>
          rw [stopsWithin, h, Bool.false_or]
          refine ih fun more => ?_
          rw [List.append_assoc]
          exact h _

/-- What was done with a reader before makes no difference to the text that it reads next. -/
theorem read_goesOn (h : ∀ more, l.policy.stops (l.heard ++ more) = false) (text : List Char) :
    (l.read text).2 = ({} : Scanner).seen text :=
  readOn_of_not_stopsWithin (l := l.reset) rfl rfl (stopsWithin_of_goesOn h _)

end Lexer

/-! ### Readings -/

/-- **However a reader is driven, it shows the same.**  A reader in any state, whatever it has
been used for and whether or not it has been stopped, whose policy does not stop from now on, is
asked for the entries of a text in any number of turns: what is seen in them is the front of what
a fresh reader shows that reads the text at once, with as many entries as requests, and with more
requests than entries it is all of it.  So the problems that are seen by any entry are the first
ones.  And a host that feeds a fresh reader the text, taking entries wherever it likes, and then
takes the end of the text and the entries that are left, sees the same entries and problems. -/
theorem readSettings_driven {policy : Policy} (hnever : ∀ heard, policy.stops heard = false)
    {used : Lexer} (hgoesOn : ∀ more, used.policy.stops (used.heard ++ more) = false)
    (text : List Char) :
    let whole := readSettings policy text
    (∀ turns : List Nat,
      let seen := ((Reader.unopened text).askInTurns used turns).flatten
      seen <+: whole.events ∧ entriesOf seen = whole.entries.take turns.sum ∧
      problemsOf seen <+: whole.problems ∧
      (whole.entries.length < turns.sum → seen = whole.events)) ∧
    (∀ actions, Feeding actions → fedAfter [] actions = text →
      let seen := (({ policy := policy } : Lexer).acts (actions ++ [.finish, .drain])).2
      entriesOf seen = whole.entries ∧ problemsOf seen = whole.problems) := by
  intro whole
  have hwhole : whole = ⟨({} : Scanner).seen text, true⟩ := readSettings_never hnever text
  refine ⟨fun turns => ?_, fun actions hfeeding hfed => ?_⟩
  · intro seen
    have hleft : (Reader.unopened text).left used = whole.events := by
      rw [hwhole]
      exact used.read_goesOn hgoesOn text
    have hseen : seen = ((Reader.unopened text).ask used turns.sum).2.2 :=
      Reader.flatten_askInTurns _ _ _
    have hfront := Reader.ask_left (.unopened text) used turns.sum
    rw [hleft, ← hseen] at hfront
    refine ⟨⟨_, hfront.symm⟩, ?_, ?_, fun hmore => ?_⟩
    · rw [hseen, Reader.entriesOf_ask, hleft]
      rfl
    · refine ⟨_, (problemsOf_append.symm.trans (congrArg problemsOf hfront.symm))⟩
    · have hnil : ((Reader.unopened text).ask used turns.sum).2.1.left
          ((Reader.unopened text).ask used turns.sum).1 = [] := by
        refine Reader.left_ask_eq_nil ?_
        rw [hleft]
        exact hmore
      rw [hfront, hnil, List.append_nil]
  · intro seen
    have hshows := Lexer.shows_acts (l := { policy := policy }) hnever rfl hfeeding
    rw [hfed] at hshows
    obtain ⟨hentries, hproblems⟩ := hshows.acts_end hnever
    rw [← Lexer.acts_append] at hentries hproblems
    rw [hwhole]
    exact ⟨hentries, hproblems⟩

/-- A reader that has been told to stop and was fed on, and then was asked for the entries of a
text and left alone inside a list, is given a listener that never stops. -/
theorem readSettings_driven_reused :
    let stopped := (({ policy := .stopAt 1 } : Lexer).acts
      [.feed 'x', .feed '=', .feed ']', .feed '"', .finish]).1
    let abandoned := ((Reader.unopened "y\nz = [".toList).next stopped).lexer
    let used := abandoned.withPolicy .listen
    let text := "a = ]\nb = \"c\nd".toList
    let whole := readSettings .listen text
    stopped.aborted = true ∧ (∀ more, used.policy.stops (used.heard ++ more) = false) ∧
      ((Reader.unopened text).askInTurns used [1, 0, 3]).flatten = whole.events ∧
      entriesOf ((Reader.unopened text).askInTurns used [1, 1]).flatten =
        [⟨"a", some "]", 1⟩, ⟨"b", some "c", 2⟩] ∧
      problemsOf (({ policy := .listen } : Lexer).acts
        (text.flatMap (fun c => [.feed c, .drain, .drain]) ++ [.finish, .drain])).2 =
          [⟨1, .unopenedList⟩, ⟨2, .quoteAtLineEnd⟩] := by
  intro stopped abandoned used text whole
  have hnever : ∀ heard, Policy.listen.stops heard = false := fun _ => rfl
  have hgoesOn : ∀ more, used.policy.stops (used.heard ++ more) = false := fun _ => rfl
  obtain ⟨hasked, hfed⟩ := readSettings_driven hnever hgoesOn text
  obtain ⟨-, -, -, hall⟩ := hasked [1, 0, 3]
  obtain ⟨-, htwo, -, -⟩ := hasked [1, 1]
  obtain ⟨-, hproblems⟩ := hfed (text.flatMap fun c => [.feed c, .drain, .drain])
    (by unfold Feeding; decide +kernel) (by decide +kernel)
  exact ⟨by decide +kernel, hgoesOn, hall (by decide +kernel), htwo.trans (by decide +kernel),
    hproblems.trans (by decide +kernel)⟩

end TerminalConfig
