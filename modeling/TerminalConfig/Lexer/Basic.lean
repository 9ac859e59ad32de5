/-
A reader of settings texts: the machine, what is done about problems, and the entries
that wait to be handed over.

A policy decides what a problem does.  Without a listener it is a warning and the
reading goes on.  A listener is asked at each problem whether to stop, and its answer
may depend on all the problems it has heard so far.  Once it has said stop the reader
stays aborted until it starts on a new text, whatever the answers after that; feeding it
further characters is allowed and treats every further problem as stopped.

A problem is shown before the entry that the same character completes: the entry only
joins the queue, and is handed over later.
-/
import TerminalConfig.Lexer.Scanner

namespace TerminalConfig

/-- What a problem does. -/
inductive Policy
  /-- It is a warning, and reading goes on. -/
  | warn
  /-- A listener is asked whether to stop.  It is given all problems it has heard, the
  one in question last. -/
  | ask (stops : List Problem → Bool)

namespace Policy

/-- Listens and never stops. -/
def listen : Policy := .ask fun _ => false

/-- Stops from the `n`-th problem on. -/
def stopAt (n : Nat) : Policy := .ask fun heard => n ≤ heard.length

end Policy

/-- A reader between two characters. -/
structure Lexer where
  policy : Policy
  /-- The problems that the listener has been asked about. -/
  heard : List Problem := []
  scanner : Scanner := {}
  /-- The listener has said stop. -/
  aborted : Bool := false
  /-- Entries that are complete and not yet handed over. -/
  queue : List Entry := []

namespace Lexer

/-- Starts on a new text.  What the listener has heard is not forgotten. -/
def reset (l : Lexer) : Lexer :=
  { l with scanner := {}, aborted := false, queue := [] }

/-- Gives the reader another policy, whose listener has heard nothing. -/
def withPolicy (l : Lexer) (policy : Policy) : Lexer :=
  { l with policy := policy, heard := [] }

/-- Puts a problem to the policy, which answers whether to stop. -/
def answer (l : Lexer) (problem : Problem) : Lexer × Bool :=
  match l.policy with
  | .warn => (l, false)
  | .ask stops =>
    let heard := l.heard ++ [problem]
    let aborted := l.aborted || stops heard
    ({ l with heard := heard, aborted := aborted }, aborted)

/-- Puts an entry at the end of the queue. -/
def enqueue (l : Lexer) (entry : Option Entry) : Lexer :=
  { l with queue := l.queue ++ entry.toList }

/-- Takes one character.  The problem it shows, if any, is on the line it stands on. -/
def feed (l : Lexer) (c : Char) : Lexer × Option Problem :=
  match l.scanner.step c with
  | .taken next entry => ({ l.enqueue entry with scanner := next.countLine c }, none)
  | .faulty error entry onward halted =>
    let problem : Problem := ⟨l.scanner.line, error⟩
    let (l, stop) := (l.enqueue entry).answer problem
    ({ l with scanner := (if stop then halted else onward).countLine c }, some problem)

/-- Shows problems one after the other, up to the first at which the reading stops. -/
def report (l : Lexer) : List Problem → Lexer × List Problem
  | [] => (l, [])
  | problem :: problems =>
    let (l, stop) := l.answer problem
    if stop then (l, [problem])
    else
      let (l, more) := l.report problems
      (l, problem :: more)

/-- Takes the end of the text. -/
def finish (l : Lexer) : Lexer × List Problem :=
  (l.enqueue l.scanner.endEntry).report
    (l.scanner.endErrors.map fun error => ⟨l.scanner.line, error⟩)

/-- Hands over the entries that wait. -/
def drain (l : Lexer) : Lexer × List Entry :=
  ({ l with queue := [] }, l.queue)

/-- Takes several characters, keeping the entries back. -/
def feedAll (l : Lexer) : List Char → Lexer × List Problem
  | [] => (l, [])
  | c :: cs =>
    let (l, problem) := l.feed c
    let (l, problems) := l.feedAll cs
    (l, problem.toList ++ problems)

/-- Reads the rest of a text to its end, or to the character at which the listener says
stop.  The entries that this character completes are still handed over. -/
def readOn (l : Lexer) : List Char → Lexer × List Event
  | [] =>
    let (l, problems) := l.finish
    let (l, entries) := l.drain
    (l, problems.map .problem ++ entries.map .entry)
  | c :: cs =>
    let (l, problem) := l.feed c
    let (l, entries) := l.drain
    let seen := problem.toList.map .problem ++ entries.map .entry
    if l.aborted then (l, seen)
    else
      let (l, events) := l.readOn cs
      (l, seen ++ events)

/-- Reads a whole text. -/
def read (l : Lexer) (text : List Char) : Lexer × List Event :=
  l.reset.readOn text

end Lexer

/-- What came of reading a text. -/
structure Reading where
  /-- Entries and problems in the order in which they were seen. -/
  events : List Event
  /-- The listener never said stop. -/
  completed : Bool

namespace Reading

/-- The entries, in the order of the text. -/
def entries (r : Reading) : List Entry :=
  r.events.filterMap fun
    | .entry entry => some entry
    | .problem _ => none

/-- The problems, in the order in which they were noticed. -/
def problems (r : Reading) : List Problem :=
  r.events.filterMap fun
    | .entry _ => none
    | .problem problem => some problem

end Reading

/-- Reads a settings text under a policy. -/
def readSettings (policy : Policy) (text : List Char) : Reading :=
  let (l, events) := ({ policy := policy } : Lexer).read text
  ⟨events, !l.aborted⟩

end TerminalConfig
