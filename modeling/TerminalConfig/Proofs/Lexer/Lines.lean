/-
Reading a settings text line by line.

Whatever is wrong with a line, the newline that ends it outside a list leaves nothing behind
but two line numbers: the comment, the quote and the escape are over, the key and the value
are given up.  The machine then stands at the start of a line, as at the start of a text, only
further down.

How far down it stands makes no difference to what it does.  `Below` relates two machines that
differ in nothing else.  The line of the latest equals sign may differ in any way outside a
value, where it is not looked at, and has to be as far down as all else inside one.  One
character keeps the relation, and so does a text.

So a text that is cut behind such a line is read like its two parts, the second with all its
lines counted from where it stands.
-/
import TerminalConfig.Proofs.Lexer.History
import TerminalConfig.Proofs.Lexer.Line
import TerminalConfig.Proofs.Lexer.Step

namespace TerminalConfig

/-! ### Further down -/

/-- The entry, `n` lines further down. -/
def Entry.down (n : Nat) (e : Entry) : Entry :=
  { e with line := e.line + n }

/-- The problem, `n` lines further down. -/
def Problem.down (n : Nat) (p : Problem) : Problem :=
  { p with line := p.line + n }

/-- What is seen, `n` lines further down. -/
def Event.down (n : Nat) : Event → Event
  | .entry e => .entry (e.down n)
  | .problem p => .problem (p.down n)

/-- The machine, `n` lines further down. -/
def Scanner.down (n : Nat) (s : Scanner) : Scanner :=
  { s with line := s.line + n, keyLine := s.keyLine + n }

/-- What a character does, `n` lines further down. -/
def Step.down (n : Nat) : Step → Step
  | .taken next entry => .taken (next.down n) (entry.map (·.down n))
  | .faulty error entry onward halted =>
    .faulty error (entry.map (·.down n)) (onward.down n) (halted.down n)

variable {n : Nat}

theorem entriesOf_down (events : List Event) :
    entriesOf (events.map (·.down n)) = (entriesOf events).map (·.down n) := by
  induction events with
  | nil => rfl
  | cons event events ih =>
      cases event with
      | entry e => exact congrArg (e.down n :: ·) ih
      | problem p => exact ih

theorem problemsOf_down (events : List Event) :
    problemsOf (events.map (·.down n)) = (problemsOf events).map (·.down n) := by
  induction events with
  | nil => rfl
  | cons event events ih =>
      cases event with
      | entry e => exact ih
      | problem p => exact congrArg (p.down n :: ·) ih

theorem Step.down_ite {p : Prop} [Decidable p] (a b : Step) :
    (if p then a else b).down n = if p then a.down n else b.down n :=
  apply_ite (Step.down n) p a b

theorem Step.down_taken (next : Scanner) (entry : Option Entry) :
    (Step.taken next entry).down n = .taken (next.down n) (entry.map (·.down n)) := rfl

theorem Step.down_faulty (error : SyntaxError) (entry : Option Entry) (onward halted : Scanner) :
    (Step.faulty error entry onward halted).down n =
      .faulty error (entry.map (·.down n)) (onward.down n) (halted.down n) := rfl

namespace Scanner

variable {s t : Scanner} {c : Char}

/-! ### Inside a value -/

theorem plain_down : (s.down n).plain c = (s.plain c).down n := by
  unfold plain down
  dsimp only
  split
  · rfl
  split
  · split <;> rfl
  · split <;> rfl

theorem toggleQuote_down : (s.down n).toggleQuote = s.toggleQuote.down n := by
  unfold toggleQuote down
  dsimp only
  split <;> split <;> rfl

theorem stepQuote_down : (s.down n).stepQuote = s.stepQuote.down n := by
  unfold stepQuote
  rw [Step.down_ite, Step.down_faulty, Step.down_taken, ← toggleQuote_down, ← toggleQuote_down]
  rfl

theorem endValue_down : (s.down n).endValue = s.endValue.down n := by
  unfold endValue
  rw [Step.down_ite]
  rfl

theorem stepEscaped_down : (s.down n).stepEscaped c = (s.stepEscaped c).down n := by
  unfold stepEscaped
  rw [Step.down_ite, Step.down_ite]
  rfl

/-- A character of a value does the same further down. -/
theorem stepValue_down : (s.down n).stepValue c = (s.stepValue c).down n := by
  have hplain (inList : Bool) :
      ({ s.down n with inList := inList } : Scanner).plain c =
        (({ s with inList := inList } : Scanner).plain c).down n :=
    plain_down (s := { s with inList := inList })
  unfold stepValue
  simp only [Step.down_ite, Step.down_taken, Step.down_faulty, stepQuote_down, endValue_down,
    stepEscaped_down, hplain, apply_ite (Scanner.down n)]
  rfl

/-! ### Two machines -/

/-- `t` stands `n` lines below `s` and is like it in all that matters. -/
structure Below (n : Nat) (s t : Scanner) : Prop where
  keyLine : s.inValue = true → t.keyLine = s.keyLine + n
  eq_down : t = { s.down n with keyLine := t.keyLine }

end Scanner

/-- What the one character does, the other does below it, if the reading carries on. -/
inductive Step.Below (n : Nat) : Step → Step → Prop
  | taken {next next' : Scanner} {entry : Option Entry} (h : Scanner.Below n next next') :
      Below n (.taken next entry) (.taken next' (entry.map (·.down n)))
  | faulty {error : SyntaxError} {entry : Option Entry} {onward onward' halted halted' : Scanner}
      (h : Scanner.Below n onward onward') :
      Below n (.faulty error entry onward halted)
        (.faulty error (entry.map (·.down n)) onward' halted')

namespace Scanner

variable {s t : Scanner} {c : Char}

theorem below_down : Below n s (s.down n) := ⟨fun _ => rfl, rfl⟩

theorem step_below_down (step : Step) : step.Below n (step.down n) := by
  cases step with
  | taken next entry => exact .taken below_down
  | faulty error entry onward halted => exact .faulty below_down

/-- Two machines that decide alike do alike if they do in both cases. -/
theorem step_below_ite {p : Prop} [Decidable p] {a a' b b' : Step} (ha : p → a.Below n a')
    (hb : ¬p → b.Below n b') : (if p then a else b).Below n (if p then a' else b') := by
  split
  · exact ha ‹p›
  · exact hb ‹¬p›

namespace Below

theorem exists_keyLine (h : Below n s t) :
    ∃ keyLine, t = { s.down n with keyLine := keyLine } := ⟨t.keyLine, h.eq_down⟩

theorem line (h : Below n s t) : t.line = s.line + n := by
  rw [h.eq_down]
  rfl

/-- Inside a value the line of the equals sign is as far down as all else. -/
theorem eq_of_inValue (h : Below n s t) (hvalue : s.inValue = true) : t = s.down n := by
  rw [h.eq_down, h.keyLine hvalue]
  rfl

theorem of_not_inValue (hvalue : s.inValue = false)
    (heq : t = { s.down n with keyLine := t.keyLine }) : Below n s t :=
  ⟨fun h => absurd h (by rw [hvalue]; decide), heq⟩

theorem inComment (h : Below n s t) (b : Bool) :
    Below n { s with inComment := b } { t with inComment := b } :=
  ⟨h.keyLine, congrArg (fun u : Scanner => { u with inComment := b }) h.eq_down⟩

theorem countLine (h : Below n s t) (c : Char) : Below n (s.countLine c) (t.countLine c) := by
  unfold Scanner.countLine
  split
  · refine ⟨h.keyLine, ?_⟩
    rw [h.line, Nat.add_right_comm]
    exact congrArg (fun u : Scanner => { u with line := s.line + 1 + n }) h.eq_down
  · exact h

theorem flagEntry (h : Below n s t) : t.flagEntry = s.flagEntry.map (·.down n) := by
  obtain ⟨keyLine, rfl⟩ := h.exists_keyLine
  exact (apply_ite (Option.map (Entry.down n)) (s.key = "") none
    (some ⟨s.key, none, s.line⟩)).symm

/-- Outside a value the line of the equals sign is not looked at. -/
theorem stepKey (h : Below n s t) (hvalue : s.inValue = false) (c : Char) :
    (s.stepKey c).Below n (t.stepKey c) := by
  have hflag := h.flagEntry
  unfold Scanner.stepKey
  rw [hflag]
  obtain ⟨keyLine, rfl⟩ := h.exists_keyLine
  refine step_below_ite (fun _ => .taken ⟨fun _ => rfl, rfl⟩) fun _ => ?_
  refine step_below_ite (fun _ => .taken (of_not_inValue hvalue rfl)) fun _ => ?_
  exact step_below_ite (fun _ => .taken h) fun _ => .taken (of_not_inValue hvalue rfl)

theorem stepPlace (h : Below n s t) (c : Char) : (s.stepPlace c).Below n (t.stepPlace c) := by
  by_cases hvalue : s.inValue = true
  · have hdown : (s.down n).inValue = true := hvalue
    rw [h.eq_of_inValue hvalue, Scanner.stepPlace, if_pos hvalue, Scanner.stepPlace, if_pos hdown,
      stepValue_down]
    exact step_below_down _
  · rw [Bool.not_eq_true] at hvalue
    have hkey := h.stepKey hvalue c
    obtain ⟨keyLine, rfl⟩ := h.exists_keyLine
    exact step_below_ite (fun hcase => absurd hcase (by rw [hvalue]; decide)) fun _ => hkey

/-- **One character does the same further down.** -/
theorem step (h : Below n s t) (c : Char) : (s.step c).Below n (t.step c) := by
  have hcomment (b : Bool) := h.inComment b
  have hplace := h.stepPlace c
  unfold Scanner.step
  obtain ⟨keyLine, rfl⟩ := h.exists_keyLine
  refine step_below_ite (fun _ => ?_) fun _ => ?_
  · exact step_below_ite (fun _ => (hcomment false).stepPlace c) fun _ => .taken h
  · exact step_below_ite (fun _ => .taken (hcomment true)) fun _ => hplace

theorem advance (h : Below n s t) (c : Char) :
    Below n (s.advance c).1 (t.advance c).1 ∧
      (t.advance c).2 = (s.advance c).2.map (·.down n) := by
  have hentry (entry : Option Entry) : (entry.map (·.down n)).toList.map Event.entry =
      (entry.toList.map Event.entry).map (·.down n) := by
    cases entry <;> rfl
  have hstep := h.step c
  unfold Scanner.advance
  generalize s.step c = there at hstep
  generalize t.step c = here at hstep
  cases hstep with
  | taken hnext => exact ⟨hnext.countLine c, hentry _⟩
  | faulty honward =>
      refine ⟨honward.countLine c, ?_⟩
      dsimp only
      rw [h.line, hentry]
      rfl

/-- A text does the same further down. -/
theorem run (h : Below n s t) (text : List Char) :
    Below n (s.run text).1 (t.run text).1 ∧
      (t.run text).2 = (s.run text).2.map (·.down n) := by
  induction text generalizing s t with
  | nil => exact ⟨h, rfl⟩
  | cons c cs ih =>
      obtain ⟨hnext, hseen⟩ := h.advance c
      obtain ⟨hlast, hmore⟩ := ih hnext
      refine ⟨hlast, ?_⟩
      rw [Scanner.run, Scanner.run, List.map_append, ← hseen, ← hmore]

theorem endEntry (h : Below n s t) : t.endEntry = s.endEntry.map (·.down n) := by
  have hmode : t.inValue = s.inValue := by
    rw [h.eq_down]
    rfl
  unfold Scanner.endEntry
  rw [hmode]
  split
  · rename_i hvalue
    rw [h.eq_of_inValue hvalue]
    rfl
  · exact h.flagEntry

theorem endProblems (h : Below n s t) : t.endProblems = s.endProblems.map (·.down n) := by
  have herrors : t.endErrors = s.endErrors := by
    rw [h.eq_down]
    rfl
  rw [Scanner.endProblems, Scanner.endProblems, herrors, List.map_map, h.line]
  rfl

/-- **What is seen of a text is seen of it further down**, with its lines counted from
there. -/
theorem seen (h : Below n s t) (text : List Char) : t.seen text = (s.seen text).map (·.down n) := by
  obtain ⟨hlast, hrun⟩ := h.run text
  rw [Scanner.seen, Scanner.seen, hrun, hlast.endProblems, hlast.endEntry, List.map_append,
    List.map_append, List.map_map, List.map_map, Option.toList_map, List.map_map, List.map_map]
  rfl

end Below

/-! ### The end of a line -/

theorem push_line : (s.push c).line = s.line := rfl

theorem plain_line : (s.plain c).line = s.line := by
  unfold plain push
  grind

theorem toggleQuote_line : s.toggleQuote.line = s.line := by
  unfold toggleQuote push
  grind

/-- A character does not count lines by itself. -/
theorem step_line : (s.step c).Leads (·.line = s.line) := by
  unfold step stepPlace stepKey stepValue stepQuote endValue stepEscaped Step.Leads
  grind [push_line, plain_line, toggleQuote_line, afterValue]

theorem run_line (s : Scanner) (text : List Char) :
    (s.run text).1.line = s.line + text.count '\n' := by
  induction text generalizing s with
  | nil => rfl
  | cons c cs ih =>
      have hstep : (s.step c).onward.line = s.line := onward_of_leads step_line
      rw [run, ih, advance_eq_onward, countLine_line, hstep, List.count_cons, Nat.add_assoc,
        Nat.add_comm (if c == '\n' then 1 else 0)]

theorem IdleOutside.run (h : s.IdleOutside) (text : List Char) : (s.run text).1.IdleOutside := by
  induction text generalizing s with
  | nil => exact h
  | cons c cs ih => exact ih (h.advance c)

/-- A newline is read as if it did not end a comment. -/
theorem step_newline : s.step '\n' = ({ s with inComment := false } : Scanner).stepPlace '\n' := by
  unfold step
  split
  · rfl
  · rename_i hcomment
    have hsame : ({ s with inComment := false } : Scanner) = s := by
      rw [← (Bool.not_eq_true _).mp hcomment]
    rw [hsame]
    rfl

/-- In a list a newline is one more character. -/
theorem stepValue_newline_inList (hlist : s.inList = true) :
    (s.stepValue '\n').onward.inList = true := by
  have htaken : s.stepValue '\n' = .taken (s.plain '\n') none := by
    simp [stepValue, hlist]
  rw [htaken]
  exact plain_inList.trans hlist

/-- In any other value it gives up the value, with its quote and its escape. -/
theorem stepValue_newline (hlist : s.inList = false) :
    (s.stepValue '\n').onward = s.afterValue := by
  have hend : s.stepValue '\n' = s.endValue := by
    simp [stepValue, hlist]
  rw [hend, endValue]
  split <;> rfl

/-- Whatever a line has left open, its newline ends it, if it is not in a list. -/
theorem IdleOutside.onward_newline (h : s.IdleOutside) (hlist : s.inList = false) :
    (s.step '\n').onward = lineStart s.line s.keyLine := by
  rw [step_newline, stepPlace]
  by_cases hvalue : s.inValue = true
  · rw [if_pos hvalue]
    refine (stepValue_newline (s := { s with inComment := false }) hlist).trans ?_
    simp [afterValue, lineStart, hlist]
  · rw [if_neg hvalue]
    have hidle := h (by simpa using hvalue)
    simp [stepKey, Step.onward, lineStart, hidle.value, hidle.blanks, hidle.inString,
      hidle.inList, hidle.escaped, hvalue]

theorem IdleOutside.advance_newline (h : s.IdleOutside) (hlist : s.inList = false) :
    (s.advance '\n').1 = lineStart (s.line + 1) s.keyLine := by
  rw [advance_eq_onward, h.onward_newline hlist]
  rfl

/-- A list is of a value, and stays open. -/
theorem IdleOutside.advance_newline_inList (h : s.IdleOutside) (hlist : s.inList = true) :
    (s.advance '\n').1.inList = true := by
  have hopen : (s.step '\n').onward.inList = true := by
    rw [step_newline, stepPlace, if_pos (by exact h.inValue_of_inList hlist)]
    exact stepValue_newline_inList (s := { s with inComment := false }) hlist
  rw [advance_eq_onward]
  exact hopen

/-- **A text that ends in a newline outside a list leaves nothing behind**, whatever is wrong
with it, but the number of its lines and the line of its latest equals sign. -/
theorem run_lines {text : List Char} (h : s.IdleOutside) (hend : text.getLast? = some '\n')
    (hlist : (s.run text).1.inList = false) :
    ∃ keyLine, (s.run text).1 = lineStart (s.line + text.count '\n') keyLine := by
  obtain ⟨lines, rfl⟩ := List.getLast?_eq_some_iff.mp hend
  have hrun : s.run (lines ++ ['\n']) =
      (((s.run lines).1.advance '\n').1, (s.run lines).2 ++ ((s.run lines).1.advance '\n').2) := by
    rw [run_append_eq, run_singleton]
  have hclosed : (s.run lines).1.inList = false := by
    rw [← Bool.not_eq_true]
    intro hopen
    rw [hrun, (h.run lines).advance_newline_inList hopen] at hlist
    exact absurd hlist (by decide)
  refine ⟨(s.run lines).1.keyLine, ?_⟩
  rw [hrun, (h.run lines).advance_newline hclosed, run_line, List.count_append]
  rfl

end Scanner

/-! ### A reader that is never stopped -/

namespace Lexer

variable {l : Lexer}

theorem feed_never (hnever : ∀ heard, l.policy.stops heard = false) (haborted : l.aborted = false)
    (c : Char) :
    (l.feed c).1.scanner = (l.scanner.advance c).1 ∧ (l.feed c).1.policy = l.policy ∧
      (l.feed c).1.aborted = false := by
  unfold Scanner.advance
  cases hstep : l.scanner.step c with
  | taken next entry =>
      rw [feed, hstep]
      exact ⟨rfl, rfl, haborted⟩
  | faulty error entry onward halted =>
      obtain ⟨heard, -, hfeed⟩ := feed_of_faulty haborted hstep
      rw [hfeed, hnever]
      exact ⟨rfl, rfl, rfl⟩

/-- It is the machine that carries on after every problem. -/
theorem feedAll_never (hnever : ∀ heard, l.policy.stops heard = false)
    (haborted : l.aborted = false) (text : List Char) :
    (l.feedAll text).1.scanner = (l.scanner.run text).1 := by
  induction text generalizing l with
  | nil => rfl
  | cons c cs ih =>
      obtain ⟨hscanner, hpolicy, hrunning⟩ := feed_never hnever haborted c
      rw [feedAll, Scanner.run, ← hscanner]
      exact ih (by rwa [hpolicy]) hrunning

end Lexer

/-- Of a reader that never stops everything is seen that the machine shows. -/
theorem readSettings_never {policy : Policy} (hnever : ∀ heard, policy.stops heard = false)
    (text : List Char) : readSettings policy text = ⟨({} : Scanner).seen text, true⟩ := by
  apply readSettings_of_not_stopsWithin
  rw [show policy.stops = fun _ => false from funext hnever]
  exact stopsWithin_never

theorem Scanner.seen_append (s : Scanner) (first rest : List Char) :
    s.seen (first ++ rest) = (s.run first).2 ++ (s.run first).1.seen rest := by
  rw [Scanner.seen, Scanner.run_append_eq, Scanner.seen, List.append_assoc]

/-- **Lines are read by themselves.**  Of a text that is cut behind a newline outside a list,
whatever is wrong with the lines before it, there is seen what is seen of the first part, and
then what is seen of the rest, as many lines further down as the first part has. -/
theorem readSettings_append {policy : Policy} (hnever : ∀ heard, policy.stops heard = false)
    {first : List Char} (hend : first.getLast? = some '\n')
    (hlist : (({ policy := policy } : Lexer).feedAll first).1.scanner.inList = false)
    (rest : List Char) :
    let lines := first.count '\n'
    let whole := readSettings policy (first ++ rest)
    whole.completed = true ∧
    whole.events =
      (readSettings policy first).events ++ (readSettings policy rest).events.map (·.down lines) ∧
    whole.entries =
      (readSettings policy first).entries ++
        (readSettings policy rest).entries.map (·.down lines) ∧
    whole.problems =
      (readSettings policy first).problems ++
        (readSettings policy rest).problems.map (·.down lines) := by
  intro lines whole
  rw [Lexer.feedAll_never hnever rfl] at hlist
  obtain ⟨keyLine, hstart⟩ := Scanner.run_lines Scanner.idleOutside_start hend hlist
  have hfirst : ({} : Scanner).seen first = (({} : Scanner).run first).2 := by
    rw [Scanner.seen, hstart]
    exact List.append_nil _
  have hbelow : Scanner.Below lines {} (({} : Scanner).run first).1 := by
    rw [hstart]
    exact .of_not_inValue rfl rfl
  have hseen : ({} : Scanner).seen (first ++ rest) =
      ({} : Scanner).seen first ++ (({} : Scanner).seen rest).map (·.down lines) := by
    rw [Scanner.seen_append, hfirst, hbelow.seen]
  have hentries := congrArg entriesOf hseen
  have hproblems := congrArg problemsOf hseen
  rw [entriesOf_append, entriesOf_down] at hentries
  rw [problemsOf_append, problemsOf_down] at hproblems
  rw [show whole = _ from readSettings_never hnever _, readSettings_never hnever,
    readSettings_never hnever]
  exact ⟨rfl, hseen, hentries, hproblems⟩

/-- Of the first part one line ends inside quotes, one ends in a backslash, one is a comment and
one is a key alone; the rest ends inside quotes. -/
theorem readSettings_append_openLines :
    let first := "a = \"x # y\nb = \\\n# c = \"\nd\n".toList
    let whole := readSettings .listen (first ++ "e\nf = \"z".toList)
    first.getLast? = some '\n' ∧
      (({ policy := .listen } : Lexer).feedAll first).1.scanner.inList = false ∧
      whole.entries = [⟨"a", some "x # y", 1⟩, ⟨"b", some "", 2⟩, ⟨"d", none, 4⟩, ⟨"e", none, 5⟩,
        ⟨"f", some "z", 6⟩] ∧
      whole.problems = [⟨1, .quoteAtLineEnd⟩, ⟨6, .quoteAtEnd⟩] := by
  intro first whole
  have hnever : ∀ heard, Policy.listen.stops heard = false := fun _ => rfl
  have hend : first.getLast? = some '\n' := by decide +kernel
  have hlist : (({ policy := .listen } : Lexer).feedAll first).1.scanner.inList = false := by
    decide +kernel
  obtain ⟨-, -, hentries, hproblems⟩ := readSettings_append hnever hend hlist "e\nf = \"z".toList
  exact ⟨hend, hlist, hentries.trans (by decide +kernel), hproblems.trans (by decide +kernel)⟩

end TerminalConfig
