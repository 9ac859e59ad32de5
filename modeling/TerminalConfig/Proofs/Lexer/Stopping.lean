/-
Where a listener stops a reading.

A listener that says stop at the `n`-th problem cuts the history of the text right behind
that problem.  What was handed over by then is kept, and so is the entry that joined the
queue just before: the entry of a line that ends inside quotes is not lost with its
problem.

The main statement compares such a reading with one that carries on.  If there are fewer
than `n` problems the two are the same.
-/
import TerminalConfig.Proofs.Lexer.History
import TerminalConfig.Proofs.Lexer.Step

namespace TerminalConfig

/-! ### The listener -/

/-- The listener says stop at the `n`-th problem that it hears, and at none before. -/
def StopsFirstAt (n : Nat) (stops : List Problem → Bool) : Prop :=
  ∀ heard : List Problem, heard.length ≤ n → (stops heard = true ↔ heard.length = n)

namespace StopsFirstAt

variable {n : Nat} {stops : List Problem → Bool} {heard : List Problem} {events : List Event}

/-- At a problem before the `n`-th there is no stop. -/
theorem not_stops (h : StopsFirstAt n stops) {p : Problem} (hlt : heard.length + 1 < n) :
    stops (heard ++ [p]) = false := by
  have hlength : (heard ++ [p]).length = heard.length + 1 := by simp
  have hiff := h (heard ++ [p]) (by omega)
  rw [← Bool.not_eq_true, hiff]
  omega

/-- Fewer than `n` problems do not stop the reading. -/
theorem not_stopsWithin (h : StopsFirstAt n stops)
    (hfew : heard.length + (problemsOf events).length < n) :
    stopsWithin stops heard events = false := by
  induction events generalizing heard with
  | nil => rfl
  | cons event events ih =>
      cases event with
      | entry e => exact ih hfew
      | problem p =>
          rw [problemsOf_cons_problem, List.length_cons] at hfew
          have hrest : (heard ++ [p]).length + (problemsOf events).length < n := by
            rw [List.length_append, List.length_singleton]
            omega
          rw [stopsWithin, h.not_stops (by omega), Bool.false_or]
          exact ih hrest

/-- With `n` problems or more, the reading is cut right behind the `n`-th. -/
theorem exists_cut (h : StopsFirstAt n stops) (hbefore : heard.length < n)
    (henough : n ≤ heard.length + (problemsOf events).length) :
    ∃ before p after, events = before ++ .problem p :: after ∧
      heard.length + (problemsOf before).length + 1 = n ∧
      upToStop stops heard events = before ++ [.problem p] ∧
      stopsWithin stops heard events = true := by
  induction events generalizing heard with
  | nil =>
      rw [problemsOf_nil, List.length_nil] at henough
      omega
  | cons event events ih =>
      cases event with
      | entry e =>
          obtain ⟨before, p, after, rfl, hlength, hcut, hstops⟩ := ih hbefore henough
          exact ⟨.entry e :: before, p, after, rfl, hlength,
            congrArg (Event.entry e :: ·) hcut, hstops⟩
      | problem p =>
          have hlength : (heard ++ [p]).length = heard.length + 1 := by simp
          by_cases hlast : heard.length + 1 = n
          · have hstop : stops (heard ++ [p]) = true :=
              (h _ (by omega)).mpr (hlength.trans hlast)
            refine ⟨[], p, events, rfl, hlast, ?_, ?_⟩
            · rw [upToStop, if_pos hstop]
              rfl
            · rw [stopsWithin, hstop, Bool.true_or]
          · have hpass : stops (heard ++ [p]) = false := h.not_stops (by omega)
            rw [problemsOf_cons_problem, List.length_cons] at henough
            obtain ⟨before, q, after, rfl, hcount, hcut, hstops⟩ :=
              @ih (heard ++ [p]) (by omega) (by omega)
            refine ⟨.problem p :: before, q, after, rfl, ?_, ?_, ?_⟩
            · rw [problemsOf_cons_problem, List.length_cons]
              omega
            · rw [upToStop, hpass, if_neg Bool.false_ne_true, hcut]
              rfl
            · rw [stopsWithin, hpass, hstops, Bool.or_true]

end StopsFirstAt

/-! ### Lines that end inside quotes -/

/-- A quote was left open, by a line or by the text. -/
def SyntaxError.IsOpenQuote (error : SyntaxError) : Prop :=
  error = .quoteAtLineEnd ∨ error = .quoteAtEnd

/-- Whenever a quote is noticed to be left open, an entry has joined the queue right before. -/
def KeepsOpenLines (events : List Event) : Prop :=
  ∀ before p after, events = before ++ .problem p :: after → p.error.IsOpenQuote →
    ∃ entry, before.getLast? = some (.entry entry)

theorem KeepsOpenLines.append {events more : List Event} (h : KeepsOpenLines events)
    (hmore : KeepsOpenLines more) : KeepsOpenLines (events ++ more) := by
  intro before p after heq hopen
  rcases List.append_eq_append_iff.mp heq with ⟨between, rfl, hrest⟩ | ⟨between, hevents, hrest⟩
  · obtain ⟨entry, hlast⟩ := hmore between p after hrest hopen
    exact ⟨entry, by simp [hlast]⟩
  · cases between with
    | nil =>
        obtain ⟨entry, hlast⟩ := hmore [] p after hrest.symm hopen
        simp at hlast
    | cons event between =>
        obtain ⟨rfl, -⟩ := List.cons.inj hrest
        exact h before p between hevents hopen

theorem keepsOpenLines_of_problems {events : List Event}
    (h : ∀ p ∈ problemsOf events, ¬p.error.IsOpenQuote) : KeepsOpenLines events := by
  rintro before p after rfl hopen
  exact absurd hopen (h p (by simp))

theorem keepsOpenLines_pair (entry : Entry) (p : Problem) :
    KeepsOpenLines [.entry entry, .problem p] := by
  intro before q after heq _
  cases before with
  | nil => cases heq
  | cons event before =>
      obtain ⟨rfl, hrest⟩ := List.cons.inj heq
      cases before with
      | nil => exact ⟨entry, rfl⟩
      | cons event before =>
          obtain ⟨-, hnil⟩ := List.cons.inj hrest
          cases before <;> cases hnil

namespace Scanner

variable {s : Scanner}

theorem keepsOpenLines_happening (s : Scanner) (c : Char) : KeepsOpenLines (s.happening c) := by
  unfold happening
  cases hstep : s.step c with
  | taken next entry => exact keepsOpenLines_of_problems (by simp)
  | faulty error entry onward halted =>
      cases entry with
      | some entry => exact keepsOpenLines_pair entry _
      | none =>
          refine keepsOpenLines_of_problems fun p hp hopen => ?_
          obtain rfl : p = ⟨s.line, error⟩ := by simpa using hp
          rcases hopen with rfl | rfl
          · exact absurd (isSome_of_quoteAtLineEnd hstep) (by decide)
          · exact step_ne_quoteAtEnd hstep

theorem keepsOpenLines_ending (h : s.IdleOutside) : KeepsOpenLines s.ending := by
  have hlist : KeepsOpenLines (if s.inList then [.problem ⟨s.line, .listAtEnd⟩] else []) := by
    split <;> exact keepsOpenLines_of_problems (by simp [SyntaxError.IsOpenQuote])
  by_cases hstring : s.inString = true
  · have hentry : s.endEntry = some s.valueEntry := if_pos (h.inValue_of_inString hstring)
    have hsplit : s.ending = [.entry s.valueEntry, .problem ⟨s.line, .quoteAtEnd⟩] ++
        if s.inList then [.problem ⟨s.line, .listAtEnd⟩] else [] := by
      rw [ending, hentry, endProblems, endErrors, if_pos hstring]
      split <;> rfl
    rw [hsplit]
    exact (keepsOpenLines_pair _ _).append hlist
  · have hsplit : s.ending = s.endEntry.toList.map .entry ++
        if s.inList then [.problem ⟨s.line, .listAtEnd⟩] else [] := by
      rw [ending, endProblems, endErrors, if_neg hstring]
      split <;> rfl
    rw [hsplit]
    exact KeepsOpenLines.append (keepsOpenLines_of_problems (by simp)) hlist

/-- **In the history of a text no line is lost with its quote.** -/
theorem keepsOpenLines_history (h : s.IdleOutside) (text : List Char) :
    KeepsOpenLines (s.history text) := by
  induction text generalizing s with
  | nil => exact keepsOpenLines_ending h
  | cons c cs ih => exact (keepsOpenLines_happening s c).append (ih (h.advance c))

end Scanner

/-! ### The cut -/

/-- With `n` problems or more in the history, the reading is what is before the `n`-th, and
that problem. -/
theorem StopsFirstAt.readSettings_cut {n : Nat} (hn : 1 ≤ n) {stops : List Problem → Bool}
    (hstops : StopsFirstAt n stops) {text : List Char}
    (henough : n ≤ (problemsOf (({} : Scanner).history text)).length) :
    ∃ before p after, ({} : Scanner).history text = before ++ .problem p :: after ∧
      (problemsOf before).length + 1 = n ∧
      (readSettings (.ask stops) text).completed = false ∧
      (readSettings (.ask stops) text).entries = entriesOf before ∧
      (readSettings (.ask stops) text).problems = problemsOf before ++ [p] := by
  obtain ⟨hentries, hproblems, hcompleted⟩ := readSettings_eq (.ask stops) text
  obtain ⟨before, p, after, hsplit, hcount, hcut, hstop⟩ :=
    @StopsFirstAt.exists_cut n stops [] _ hstops hn (by simpa using henough)
  have hleft : upToStop (Policy.ask stops).stops [] (({} : Scanner).history text) =
      before ++ [.problem p] := hcut
  refine ⟨before, p, after, hsplit, by simpa using hcount,
    hcompleted.trans (congrArg (!·) hstop), ?_, ?_⟩
  · rw [hentries, hleft]
    simp
  · rw [hproblems, hleft]
    simp

open Scanner in
/-- **A listener that stops at the `n`-th problem cuts the reading exactly there.**  With
fewer problems nothing is different.  Otherwise the problems are the first `n`, and the
entries are those that had joined the queue before the `n`-th was shown, the entry of a line
that ends inside quotes included. -/
theorem readSettings_stopped {n : Nat} (hn : 1 ≤ n) {stops : List Problem → Bool}
    (hstops : StopsFirstAt n stops) (text : List Char) :
    let history := ({} : Scanner).history text
    let whole := readSettings .listen text
    let stopped := readSettings (.ask stops) text
    (whole.completed = true ∧ whole.entries = entriesOf history ∧
      whole.problems = problemsOf history) ∧
    (whole.problems.length < n → stopped = whole) ∧
    (n ≤ whole.problems.length →
      stopped.completed = false ∧ stopped.problems = whole.problems.take n ∧
      stopped.entries <+: whole.entries ∧
      ∃ before p after, history = before ++ .problem p :: after ∧
        (problemsOf before).length + 1 = n ∧ stopped.entries = entriesOf before ∧
        (p.error.IsOpenQuote →
          ∃ entry, before.getLast? = some (.entry entry) ∧
            stopped.entries.getLast? = some entry)) := by
  intro history whole stopped
  obtain ⟨hseen, hentries, hproblems⟩ := readSettings_listen text
  refine ⟨⟨congrArg Reading.completed hseen, hentries, hproblems⟩, fun hfew => ?_,
    fun henough => ?_⟩
  · have hnever : stopsWithin (Policy.ask stops).stops [] history = false := by
      refine hstops.not_stopsWithin ?_
      rw [← hproblems, List.length_nil, Nat.zero_add]
      exact hfew
    exact (readSettings_of_not_stopsWithin hnever).trans hseen.symm
  · rw [hproblems] at henough
    obtain ⟨before, p, after, hhistory, hcount, hcompleted, hkept, hshown⟩ :=
      hstops.readSettings_cut hn henough
    have hfirst : stopped.problems = whole.problems.take n := by
      have hlength : (problemsOf before ++ [p]).length = n := by simpa using hcount
      have hwhole : whole.problems = (problemsOf before ++ [p]) ++ problemsOf after := by
        rw [hproblems, hhistory]
        simp
      rw [hshown, hwhole, List.take_left' hlength]
    have hprefix : stopped.entries <+: whole.entries := by
      rw [hkept, hentries, hhistory]
      simp
    refine ⟨hcompleted, hfirst, hprefix, before, p, after, hhistory, hcount, hkept,
      fun hopen => ?_⟩
    obtain ⟨entry, hlast⟩ :=
      keepsOpenLines_history idleOutside_start text before p after hhistory hopen
    obtain ⟨first, rfl⟩ := List.getLast?_eq_some_iff.mp hlast
    exact ⟨entry, hlast, by rw [hkept]; simp⟩

/-- The second problem is a line that ends inside quotes, and a third problem follows. -/
theorem readSettings_stopped_inside_quotes :
    let stops := fun heard : List Problem => decide (2 ≤ heard.length)
    let stopped := readSettings (.ask stops) "a = ]\nb = \"x\nc = \"y".toList
    StopsFirstAt 2 stops ∧ stopped.completed = false ∧
      stopped.problems = [⟨1, .unopenedList⟩, ⟨2, .quoteAtLineEnd⟩] ∧
      stopped.entries = [⟨"a", some "]", 1⟩, ⟨"b", some "x", 2⟩] := by
  intro stops stopped
  have hstops : StopsFirstAt 2 stops := by
    intro heard hlength
    rw [decide_eq_true_eq]
    omega
  obtain ⟨-, -, hstopped⟩ :=
    readSettings_stopped (by decide) hstops "a = ]\nb = \"x\nc = \"y".toList
  obtain ⟨hcompleted, hproblems, -, -⟩ := hstopped (by decide +kernel)
  exact ⟨hstops, hcompleted, hproblems.trans (by decide +kernel), by decide +kernel⟩

end TerminalConfig
