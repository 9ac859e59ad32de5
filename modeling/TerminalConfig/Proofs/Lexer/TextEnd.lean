/-
The end of a text and a newline in its place.

A text need not end in a newline, and its last line counts all the same.  The end of the text
completes the entry that a newline would complete, whatever state the line was left in: a key
alone, a value with nothing in it, blanks at the end of a value, an open comment, a backslash
with nothing behind it.  A quote that is still open is a problem either way, on the same line,
and differs only in what the user is told.

An open list is the exception, because a newline is one more character of it.
-/
import TerminalConfig.Proofs.Lexer.Lines

namespace TerminalConfig

/-! ### What the user is told -/

/-- The problem that a line has which ends where the text does. -/
def SyntaxError.atLineEnd : SyntaxError → SyntaxError
  | .quoteAtEnd => .quoteAtLineEnd
  | error => error

/-- The problem, with a newline for the end of the text. -/
def Problem.atLineEnd (p : Problem) : Problem :=
  { p with error := p.error.atLineEnd }

/-- What is seen, with a newline for the end of the text. -/
def Event.atLineEnd : Event → Event
  | .entry e => .entry e
  | .problem p => .problem p.atLineEnd

/-- Nothing but the wording of an open quote differs. -/
theorem SyntaxError.message_atLineEnd (error : SyntaxError) :
    error.atLineEnd.message =
      if error = .quoteAtEnd then "'\"' expected before end of line" else error.message := by
  cases error <;> rfl

theorem SyntaxError.atLineEnd_of_ne {error : SyntaxError} (h : error ≠ .quoteAtEnd) :
    error.atLineEnd = error := by
  cases error <;> first | rfl | exact absurd rfl h

theorem entriesOf_atLineEnd (events : List Event) :
    entriesOf (events.map .atLineEnd) = entriesOf events := by
  induction events with
  | nil => rfl
  | cons event events ih =>
      cases event with
      | entry e => exact congrArg (e :: ·) ih
      | problem p => exact ih

theorem problemsOf_atLineEnd (events : List Event) :
    problemsOf (events.map .atLineEnd) = (problemsOf events).map .atLineEnd := by
  induction events with
  | nil => rfl
  | cons event events ih =>
      cases event with
      | entry e => exact ih
      | problem p => exact congrArg (p.atLineEnd :: ·) ih

theorem map_atLineEnd_entries (es : List Entry) :
    (es.map Event.entry).map Event.atLineEnd = es.map .entry :=
  List.map_map

namespace Scanner

variable {s : Scanner}

/-! ### Before the end -/

/-- No character shows what only the end of the text shows. -/
theorem map_atLineEnd_advance (s : Scanner) (c : Char) :
    (s.advance c).2.map .atLineEnd = (s.advance c).2 := by
  unfold advance
  cases hstep : s.step c with
  | taken next entry => exact map_atLineEnd_entries _
  | faulty error entry onward halted =>
      have herror : error.atLineEnd = error :=
        SyntaxError.atLineEnd_of_ne fun h => step_ne_quoteAtEnd (h ▸ hstep)
      rw [List.map_cons, map_atLineEnd_entries, Event.atLineEnd, Problem.atLineEnd, herror]

theorem map_atLineEnd_run (s : Scanner) (text : List Char) :
    (s.run text).2.map .atLineEnd = (s.run text).2 := by
  induction text generalizing s with
  | nil => rfl
  | cons c cs ih => rw [run, List.map_append, map_atLineEnd_advance, ih]

/-! ### At the end -/

/-- Outside lists a newline shows an open quote and nothing else. -/
theorem IdleOutside.error_newline (h : s.IdleOutside) (hlist : s.inList = false) :
    (s.step '\n').error = if s.inString then some .quoteAtLineEnd else none := by
  rw [step_newline, stepPlace]
  by_cases hvalue : s.inValue = true
  · have hend : ({ s with inComment := false } : Scanner).stepValue '\n' =
        ({ s with inComment := false } : Scanner).endValue := by
      simp [stepValue, hlist]
    rw [if_pos hvalue, hend, endValue]
    split <;> rfl
  · rw [if_neg hvalue, (h (by simpa using hvalue)).inString]
    rfl

/-- **Outside lists a newline shows what the end of the text would show**, but for the
wording. -/
theorem IdleOutside.seen_newline (h : s.IdleOutside) (hlist : s.inList = false) :
    s.seen ['\n'] = (s.seen []).map .atLineEnd := by
  have hentry : (s.step '\n').entry = s.endEntry := by
    rw [step_entry h, if_pos ⟨rfl, hlist⟩]
  have hafter : (s.advance '\n').1 = lineStart (s.line + 1) s.keyLine := h.advance_newline hlist
  rw [seen, run_singleton, hafter, seen_advance, h.error_newline hlist, hentry, seen, run_nil,
    List.nil_append, List.map_append, map_atLineEnd_entries]
  by_cases hstring : s.inString = true
  · simp [lineStart, endProblems, endErrors, endEntry, flagEntry, hstring, hlist,
      Event.atLineEnd, Problem.atLineEnd, SyntaxError.atLineEnd]
  · simp [lineStart, endProblems, endErrors, endEntry, flagEntry, hstring, hlist]

end Scanner

/-! ### Readings -/

/-- **The end of a text is read like a newline.**  If a text does not end in a list, then with
a newline behind it the reading shows the same entries and problems in the same order and on
the same lines; only an open quote is worded as that of a line. -/
theorem readSettings_newline {policy : Policy} (hnever : ∀ heard, policy.stops heard = false)
    {text : List Char}
    (hlist : (({ policy := policy } : Lexer).feedAll text).1.scanner.inList = false) :
    let ended := readSettings policy (text ++ ['\n'])
    let unended := readSettings policy text
    ended.completed = true ∧ unended.completed = true ∧
    ended.events = unended.events.map .atLineEnd ∧
    ended.entries = unended.entries ∧
    ended.problems = unended.problems.map .atLineEnd ∧
    ∀ p ∈ unended.problems, p.atLineEnd.line = p.line ∧ p.atLineEnd.error.message =
      if p.error = .quoteAtEnd then "'\"' expected before end of line" else p.error.message := by
  intro ended unended
  rw [Lexer.feedAll_never hnever rfl] at hlist
  have hseen : ({} : Scanner).seen (text ++ ['\n']) =
      (({} : Scanner).seen text).map .atLineEnd := by
    have hwhole := Scanner.seen_append {} text []
    rw [List.append_nil] at hwhole
    rw [Scanner.seen_append, (Scanner.idleOutside_start.run text).seen_newline hlist, hwhole,
      List.map_append, Scanner.map_atLineEnd_run]
  have hentries := congrArg entriesOf hseen
  have hproblems := congrArg problemsOf hseen
  rw [entriesOf_atLineEnd] at hentries
  rw [problemsOf_atLineEnd] at hproblems
  rw [show ended = _ from readSettings_never hnever _,
    show unended = _ from readSettings_never hnever _]
  exact ⟨rfl, rfl, hseen, hentries, hproblems,
    fun p _ => ⟨rfl, SyntaxError.message_atLineEnd p.error⟩⟩

/-- A line ends in a backslash, one is a key with a comment behind it, and the text ends inside
quotes, behind a blank and a backslash. -/
theorem readSettings_newline_openQuote :
    let text := "a = ] \\\nflag # b\nc = \"d \\".toList
    let ended := readSettings .warn (text ++ ['\n'])
    (∀ heard, Policy.warn.stops heard = false) ∧
      (({ policy := .warn } : Lexer).feedAll text).1.scanner.inList = false ∧
      ended.entries = [⟨"a", some "]", 1⟩, ⟨"flag", none, 2⟩, ⟨"c", some "d ", 3⟩] ∧
      ended.problems = [⟨1, .unopenedList⟩, ⟨3, .quoteAtLineEnd⟩] := by
  intro text ended
  have hnever : ∀ heard, Policy.warn.stops heard = false := fun _ => rfl
  have hlist : (({ policy := .warn } : Lexer).feedAll text).1.scanner.inList = false := by
    decide +kernel
  obtain ⟨-, -, -, hentries, hproblems, -⟩ := readSettings_newline hnever hlist
  exact ⟨hnever, hlist, hentries.trans (by decide +kernel), hproblems.trans (by decide +kernel)⟩

end TerminalConfig
