/-
What happens while a text is read, in the order in which it happens.

The events of a reading are in the order in which they are seen, and that is not quite the
order in which they come about: a problem is seen before the entry that the same character
completes, but the entry has joined the queue by then.  `history` has the entry first.  It
is the history of a reader that carries on after every problem, and it is the machine's
alone.

A policy that says stop cuts the history behind a problem.  The main statement is that what
comes of a reading is what its policy leaves of the history.
-/
import TerminalConfig.Proofs.Lexer.Run

namespace TerminalConfig

/-! ### The two kinds of events -/

def Event.entry? : Event → Option Entry
  | .entry e => some e
  | .problem _ => none

def Event.problem? : Event → Option Problem
  | .entry _ => none
  | .problem p => some p

/-- The entries among events. -/
def entriesOf (events : List Event) : List Entry :=
  events.filterMap Event.entry?

/-- The problems among events. -/
def problemsOf (events : List Event) : List Problem :=
  events.filterMap Event.problem?

variable {events more : List Event}

@[simp] theorem entriesOf_nil : entriesOf [] = [] := rfl

@[simp] theorem problemsOf_nil : problemsOf [] = [] := rfl

@[simp] theorem entriesOf_append :
    entriesOf (events ++ more) = entriesOf events ++ entriesOf more :=
  List.filterMap_append

@[simp] theorem problemsOf_append :
    problemsOf (events ++ more) = problemsOf events ++ problemsOf more :=
  List.filterMap_append

@[simp] theorem entriesOf_entries (es : List Entry) : entriesOf (es.map .entry) = es := by
  induction es with
  | nil => rfl
  | cons e es ih => exact congrArg (e :: ·) ih

@[simp] theorem problemsOf_entries (es : List Entry) : problemsOf (es.map .entry) = [] := by
  induction es with
  | nil => rfl
  | cons e es ih => exact ih

@[simp] theorem entriesOf_problems (ps : List Problem) : entriesOf (ps.map .problem) = [] := by
  induction ps with
  | nil => rfl
  | cons p ps ih => exact ih

@[simp] theorem problemsOf_problems (ps : List Problem) : problemsOf (ps.map .problem) = ps := by
  induction ps with
  | nil => rfl
  | cons p ps ih => exact congrArg (p :: ·) ih

@[simp] theorem entriesOf_cons_entry (e : Entry) :
    entriesOf (.entry e :: events) = e :: entriesOf events := rfl

@[simp] theorem entriesOf_cons_problem (p : Problem) :
    entriesOf (.problem p :: events) = entriesOf events := rfl

@[simp] theorem problemsOf_cons_entry (e : Entry) :
    problemsOf (.entry e :: events) = problemsOf events := rfl

@[simp] theorem problemsOf_cons_problem (p : Problem) :
    problemsOf (.problem p :: events) = p :: problemsOf events := rfl

/-! ### The history of a text -/

namespace Scanner

/-- What one character makes happen: the entry that it completes joins the queue, and then
its problem is shown. -/
def happening (s : Scanner) (c : Char) : List Event :=
  match s.step c with
  | .taken _ entry => entry.toList.map .entry
  | .faulty error entry _ _ => entry.toList.map .entry ++ [.problem ⟨s.line, error⟩]

/-- What the end of the text leaves open, as problems. -/
def endProblems (s : Scanner) : List Problem :=
  s.endErrors.map fun error => ⟨s.line, error⟩

/-- What the end of the text makes happen: the last entry joins the queue, and then it is
shown what was left open. -/
def ending (s : Scanner) : List Event :=
  s.endEntry.toList.map .entry ++ s.endProblems.map .problem

/-- What happens while a text is read to its end, whatever its problems. -/
def history (s : Scanner) : List Char → List Event
  | [] => s.ending
  | c :: cs => s.happening c ++ (s.advance c).1.history cs

/-- What is seen while a text is read to its end, whatever its problems. -/
def seen (s : Scanner) (text : List Char) : List Event :=
  (s.run text).2 ++
    ((s.run text).1.endProblems.map .problem ++ (s.run text).1.endEntry.toList.map .entry)

end Scanner

/-! ### Policies -/

/-- Whether a policy says stop, when these are the problems so far, the latest last. -/
def Policy.stops : Policy → List Problem → Bool
  | .warn => fun _ => false
  | .ask stops => stops

/-- Whether there is a stop at one of the problems, when there have been others before. -/
def stopsWithin (stops : List Problem → Bool) (heard : List Problem) : List Event → Bool
  | [] => false
  | .entry _ :: events => stopsWithin stops heard events
  | .problem p :: events =>
    stops (heard ++ [p]) || stopsWithin stops (heard ++ [p]) events

/-- The events up to the first problem at which there is a stop. -/
def upToStop (stops : List Problem → Bool) (heard : List Problem) : List Event → List Event
  | [] => []
  | .entry e :: events => .entry e :: upToStop stops heard events
  | .problem p :: events =>
    .problem p :: if stops (heard ++ [p]) then [] else upToStop stops (heard ++ [p]) events

variable {stops : List Problem → Bool} {heard : List Problem}

theorem stopsWithin_entries (es : List Entry) :
    stopsWithin stops heard (es.map .entry ++ events) = stopsWithin stops heard events := by
  induction es with
  | nil => rfl
  | cons e es ih => exact ih

theorem upToStop_entries (es : List Entry) :
    upToStop stops heard (es.map .entry ++ events) =
      es.map .entry ++ upToStop stops heard events := by
  induction es with
  | nil => rfl
  | cons e es ih => exact congrArg (Event.entry e :: ·) ih

/-- A stop among problems leaves no entries. -/
theorem entriesOf_upToStop_problems (ps : List Problem) :
    entriesOf (upToStop stops heard (ps.map .problem)) = [] := by
  induction ps generalizing heard with
  | nil => rfl
  | cons p ps ih =>
      rw [List.map_cons, upToStop, entriesOf_cons_problem]
      split
      · rfl
      · exact ih

/-- Without a stop everything is left. -/
theorem upToStop_of_not_stopsWithin (h : stopsWithin stops heard events = false) :
    upToStop stops heard events = events := by
  induction events generalizing heard with
  | nil => rfl
  | cons event events ih =>
      cases event with
      | entry e => exact congrArg (Event.entry e :: ·) (ih h)
      | problem p =>
          obtain ⟨hp, hrest⟩ := Bool.or_eq_false_iff.mp h
          rw [upToStop, if_neg (by simp [hp]), ih hrest]

/-- Nothing is cut off events that are left without a problem. -/
theorem upToStop_of_problemsOf_eq_nil (h : problemsOf (upToStop stops heard events) = []) :
    upToStop stops heard events = events := by
  induction events with
  | nil => rfl
  | cons event events ih =>
      cases event with
      | entry e => exact congrArg (Event.entry e :: ·) (ih h)
      | problem p => exact absurd h (by simp [upToStop])

theorem stopsWithin_never : stopsWithin (fun _ => false) heard events = false := by
  induction events generalizing heard with
  | nil => rfl
  | cons event events ih =>
      cases event with
      | entry e => exact ih
      | problem p => exact ih

/-! ### Reading under a policy -/

namespace Lexer

variable {l : Lexer}

/-- A reader that has been asked about a problem remembers `heard`, which is to the policy
as if the problem had joined the others.  A warning is not remembered, but nothing depends
on it either. -/
def Remembers (l : Lexer) (p : Problem) (heard : List Problem) : Prop :=
  ∀ events, upToStop l.policy.stops heard events =
      upToStop l.policy.stops (l.heard ++ [p]) events ∧
    stopsWithin l.policy.stops heard events =
      stopsWithin l.policy.stops (l.heard ++ [p]) events

/-- What a policy makes of a problem. -/
theorem answer_eq (haborted : l.aborted = false) (p : Problem) :
    ∃ heard, l.Remembers p heard ∧
      l.answer p = ({ l with heard := heard, aborted := l.policy.stops (l.heard ++ [p]) },
        l.policy.stops (l.heard ++ [p])) := by
  obtain ⟨policy, before, scanner, aborted, queue⟩ := l
  cases policy with
  | ask stops =>
      exact ⟨before ++ [p], fun _ => ⟨rfl, rfl⟩, by simp_all [answer, Policy.stops]⟩
  | warn =>
      refine ⟨before, fun events => ?_, by simp_all [answer, Policy.stops]⟩
      simp only [Policy.stops, stopsWithin_never, upToStop_of_not_stopsWithin, and_self]

/-- Problems at the end of a text are shown up to the first at which there is a stop. -/
theorem report_eq (haborted : l.aborted = false) (ps : List Problem) :
    (l.report ps).2 = problemsOf (upToStop l.policy.stops l.heard (ps.map .problem)) ∧
      (l.report ps).1.aborted = stopsWithin l.policy.stops l.heard (ps.map .problem) ∧
      (l.report ps).1.queue = l.queue := by
  induction ps generalizing l with
  | nil => exact ⟨rfl, haborted, rfl⟩
  | cons p ps ih =>
      obtain ⟨heard, hheard, hanswer⟩ := answer_eq haborted p
      rw [report, hanswer]
      by_cases hstop : l.policy.stops (l.heard ++ [p]) = true
      · simp [hstop, stopsWithin, upToStop]
      · rw [Bool.not_eq_true] at hstop
        obtain ⟨hshown, hstopped, hkept⟩ :=
          @ih { l with heard := heard, aborted := l.policy.stops (l.heard ++ [p]) } hstop
        simp only [hstop, (hheard _).1, (hheard _).2] at hshown hstopped hkept
        simp [hstop, upToStop, stopsWithin, hshown, hstopped, hkept]

/-- The end of a text. -/
theorem readOn_nil (haborted : l.aborted = false) (hqueue : l.queue = []) :
    (l.readOn []).2 =
        (problemsOf (upToStop l.policy.stops l.heard
          (l.scanner.endProblems.map .problem))).map .problem ++
        l.scanner.endEntry.toList.map .entry ∧
      (l.readOn []).1.aborted =
        stopsWithin l.policy.stops l.heard (l.scanner.endProblems.map .problem) := by
  obtain ⟨hshown, hstopped, hkept⟩ :=
    report_eq (l := l.enqueue l.scanner.endEntry) haborted l.scanner.endProblems
  have hread : l.readOn [] = ({ l.finish.1 with queue := [] },
      l.finish.2.map .problem ++ l.finish.1.queue.map .entry) := rfl
  have hfinish : l.finish = (l.enqueue l.scanner.endEntry).report l.scanner.endProblems := rfl
  have hqueued : (l.enqueue l.scanner.endEntry).queue = l.scanner.endEntry.toList := by
    simp [enqueue, hqueue]
  rw [hread, hfinish, hshown, hkept, hqueued]
  exact ⟨rfl, hstopped⟩

variable {c : Char} {next onward halted : Scanner} {entry : Option Entry} {error : SyntaxError}

/-- A character that shows no problem. -/
theorem readOn_of_taken (haborted : l.aborted = false) (hqueue : l.queue = [])
    (h : l.scanner.step c = .taken next entry) (cs : List Char) :
    l.readOn (c :: cs) =
      ((({ l with scanner := next.countLine c } : Lexer).readOn cs).1,
        entry.toList.map .entry ++
          (({ l with scanner := next.countLine c } : Lexer).readOn cs).2) := by
  rw [readOn, feed, h]
  simp [drain, enqueue, haborted, hqueue]

/-- A character that shows a problem. -/
theorem feed_of_faulty (haborted : l.aborted = false)
    (h : l.scanner.step c = .faulty error entry onward halted) :
    ∃ heard, l.Remembers ⟨l.scanner.line, error⟩ heard ∧
      l.feed c =
        ({ l.enqueue entry with
            heard := heard
            aborted := l.policy.stops (l.heard ++ [⟨l.scanner.line, error⟩])
            scanner := (if l.policy.stops (l.heard ++ [⟨l.scanner.line, error⟩]) then halted
              else onward).countLine c },
          some ⟨l.scanner.line, error⟩) := by
  obtain ⟨heard, hheard, hanswer⟩ :=
    answer_eq (l := l.enqueue entry) haborted ⟨l.scanner.line, error⟩
  refine ⟨heard, hheard, ?_⟩
  rw [feed, h]
  dsimp only
  rw [hanswer]
  rfl

/-- A character whose problem is let pass. -/
theorem readOn_of_passed (haborted : l.aborted = false) (hqueue : l.queue = [])
    (h : l.scanner.step c = .faulty error entry onward halted)
    (hpass : l.policy.stops (l.heard ++ [⟨l.scanner.line, error⟩]) = false) (cs : List Char) :
    ∃ heard, l.Remembers ⟨l.scanner.line, error⟩ heard ∧
      l.readOn (c :: cs) =
        ((({ l with heard := heard, scanner := onward.countLine c } : Lexer).readOn cs).1,
          .problem ⟨l.scanner.line, error⟩ :: (entry.toList.map .entry ++
            (({ l with heard := heard, scanner := onward.countLine c } : Lexer).readOn cs).2)) := by
  obtain ⟨heard, hheard, hfeed⟩ := feed_of_faulty haborted h
  refine ⟨heard, hheard, ?_⟩
  rw [readOn, hfeed]
  simp [hpass, drain, enqueue, haborted, hqueue]

/-- A character at whose problem there is a stop. -/
theorem readOn_of_stopped (haborted : l.aborted = false) (hqueue : l.queue = [])
    (h : l.scanner.step c = .faulty error entry onward halted)
    (hstop : l.policy.stops (l.heard ++ [⟨l.scanner.line, error⟩]) = true) (cs : List Char) :
    (l.readOn (c :: cs)).2 =
        .problem ⟨l.scanner.line, error⟩ :: entry.toList.map .entry ∧
      (l.readOn (c :: cs)).1.aborted = true := by
  obtain ⟨heard, -, hfeed⟩ := feed_of_faulty haborted h
  rw [readOn, hfeed]
  simp [hstop, drain, enqueue, hqueue]

/-- What comes of a reading is what its policy leaves of the history. -/
theorem readOn_eq (haborted : l.aborted = false) (hqueue : l.queue = []) (text : List Char) :
    entriesOf (l.readOn text).2 =
        entriesOf (upToStop l.policy.stops l.heard (l.scanner.history text)) ∧
      problemsOf (l.readOn text).2 =
        problemsOf (upToStop l.policy.stops l.heard (l.scanner.history text)) ∧
      (l.readOn text).1.aborted =
        stopsWithin l.policy.stops l.heard (l.scanner.history text) := by
  induction text generalizing l with
  | nil =>
      obtain ⟨hseen, hstopped⟩ := readOn_nil haborted hqueue
      rw [hseen, hstopped, Scanner.history, Scanner.ending, upToStop_entries,
        stopsWithin_entries]
      simp [entriesOf_upToStop_problems]
  | cons c cs ih =>
      rw [Scanner.history, Scanner.happening, Scanner.advance]
      cases hstep : l.scanner.step c with
      | taken next entry =>
          obtain ⟨hentries, hproblems, hstopped⟩ :=
            @ih { l with scanner := next.countLine c } haborted hqueue
          rw [readOn_of_taken haborted hqueue hstep, upToStop_entries, stopsWithin_entries]
          simp [hentries, hproblems, hstopped]
      | faulty error entry onward halted =>
          simp only [List.append_assoc, upToStop_entries, stopsWithin_entries,
            List.singleton_append, upToStop, stopsWithin]
          by_cases hstop : l.policy.stops (l.heard ++ [⟨l.scanner.line, error⟩]) = true
          · obtain ⟨hseen, haborted'⟩ := readOn_of_stopped haborted hqueue hstep hstop cs
            simp [hseen, haborted', hstop]
          · rw [Bool.not_eq_true] at hstop
            obtain ⟨heard, hheard, hread⟩ := readOn_of_passed haborted hqueue hstep hstop cs
            obtain ⟨hentries, hproblems, hstopped⟩ :=
              @ih { l with heard := heard, scanner := onward.countLine c } haborted hqueue
            simp only [(hheard _).1, (hheard _).2] at hentries hproblems hstopped
            simp [hread, hentries, hproblems, hstopped, hstop]

/-- Without a stop, everything is seen that the machine shows on its way. -/
theorem readOn_of_not_stopsWithin (haborted : l.aborted = false) (hqueue : l.queue = [])
    {text : List Char}
    (h : stopsWithin l.policy.stops l.heard (l.scanner.history text) = false) :
    (l.readOn text).2 = l.scanner.seen text := by
  induction text generalizing l with
  | nil =>
      rw [Scanner.history, Scanner.ending, stopsWithin_entries] at h
      rw [(readOn_nil haborted hqueue).1, upToStop_of_not_stopsWithin h, problemsOf_problems]
      rfl
  | cons c cs ih =>
      rw [Scanner.history, Scanner.happening, Scanner.advance] at h
      rw [Scanner.seen, Scanner.run, Scanner.advance]
      cases hstep : l.scanner.step c with
      | taken next entry =>
          rw [hstep] at h
          rw [stopsWithin_entries] at h
          rw [readOn_of_taken haborted hqueue hstep,
            @ih { l with scanner := next.countLine c } haborted hqueue h]
          simp [Scanner.seen]
      | faulty error entry onward halted =>
          rw [hstep] at h
          simp only [List.append_assoc, stopsWithin_entries, List.singleton_append, stopsWithin,
            Bool.or_eq_false_iff] at h
          obtain ⟨heard, hheard, hread⟩ := readOn_of_passed haborted hqueue hstep h.1 cs
          rw [hread, @ih { l with heard := heard, scanner := onward.countLine c } haborted hqueue
            ((hheard _).2.trans h.2)]
          simp [Scanner.seen]

end Lexer

/-! ### Readings -/

/-- **What comes of a reading is what its policy leaves of the history**: the entries, the
problems, and whether it was stopped. -/
theorem readSettings_eq (policy : Policy) (text : List Char) :
    (readSettings policy text).entries =
        entriesOf (upToStop policy.stops [] (({} : Scanner).history text)) ∧
      (readSettings policy text).problems =
        problemsOf (upToStop policy.stops [] (({} : Scanner).history text)) ∧
      (readSettings policy text).completed =
        !stopsWithin policy.stops [] (({} : Scanner).history text) := by
  obtain ⟨hentries, hproblems, hstopped⟩ :=
    Lexer.readOn_eq (l := { policy := policy }) rfl rfl text
  exact ⟨hentries, hproblems, congrArg (!·) hstopped⟩

/-- A reading that is not stopped shows what the machine shows on its way. -/
theorem readSettings_of_not_stopsWithin {policy : Policy} {text : List Char}
    (h : stopsWithin policy.stops [] (({} : Scanner).history text) = false) :
    readSettings policy text = ⟨({} : Scanner).seen text, true⟩ := by
  have hevents : (readSettings policy text).events = ({} : Scanner).seen text :=
    Lexer.readOn_of_not_stopsWithin (l := { policy := policy }) rfl rfl h
  have hcompleted : (readSettings policy text).completed = true := by
    rw [(readSettings_eq policy text).2.2, h]
    rfl
  exact congr (congrArg Reading.mk hevents) hcompleted

/-- A reader that carries on has the whole history. -/
theorem readSettings_listen (text : List Char) :
    readSettings .listen text = ⟨({} : Scanner).seen text, true⟩ ∧
      (readSettings .listen text).entries = entriesOf (({} : Scanner).history text) ∧
      (readSettings .listen text).problems = problemsOf (({} : Scanner).history text) := by
  have hnever : stopsWithin Policy.listen.stops [] (({} : Scanner).history text) = false :=
    stopsWithin_never
  obtain ⟨hentries, hproblems, -⟩ := readSettings_eq .listen text
  rw [upToStop_of_not_stopsWithin hnever] at hentries hproblems
  exact ⟨readSettings_of_not_stopsWithin hnever, hentries, hproblems⟩

end TerminalConfig
