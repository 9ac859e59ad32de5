/-
The machine of the lexer over a whole text.

A reader hands every problem to its policy and may be told to stop.  Where no problem
shows, the policy is never asked, and what is read is a matter of the machine alone.
`run` is the machine carrying on over a text, with what is seen on the way; the main
statement is that a text in which the run shows no problem is read alike under every
policy.

Runs compose, so a text is taken apart into its pieces and each piece is run by itself.
-/
import TerminalConfig.Lexer.Basic

namespace TerminalConfig

namespace Scanner

/-- One character, carrying on after a problem: the machine after it and what is seen. -/
def advance (s : Scanner) (c : Char) : Scanner × List Event :=
  match s.step c with
  | .taken next entry => (next.countLine c, entry.toList.map .entry)
  | .faulty error entry onward _ =>
    (onward.countLine c, .problem ⟨s.line, error⟩ :: entry.toList.map .entry)

/-- Several characters, carrying on after every problem. -/
def run (s : Scanner) : List Char → Scanner × List Event
  | [] => (s, [])
  | c :: cs =>
    (((s.advance c).1.run cs).1, (s.advance c).2 ++ ((s.advance c).1.run cs).2)

@[simp] theorem run_nil (s : Scanner) : s.run [] = (s, []) := rfl

theorem run_cons {s next last : Scanner} {c : Char} {cs : List Char} {seen more : List Event}
    (hc : s.advance c = (next, seen)) (hcs : next.run cs = (last, more)) :
    s.run (c :: cs) = (last, seen ++ more) := by
  rw [run, hc, hcs]

@[simp] theorem countLine_key (s : Scanner) (c : Char) : (s.countLine c).key = s.key := by
  unfold countLine
  split <;> rfl

@[simp] theorem countLine_keyLine (s : Scanner) (c : Char) :
    (s.countLine c).keyLine = s.keyLine := by
  unfold countLine
  split <;> rfl

@[simp] theorem countLine_value (s : Scanner) (c : Char) : (s.countLine c).value = s.value := by
  unfold countLine
  split <;> rfl

theorem countLine_line (s : Scanner) (c : Char) :
    (s.countLine c).line = s.line + if c == '\n' then 1 else 0 := by
  unfold countLine
  split <;> rfl

theorem advance_of_taken {s next : Scanner} {c : Char} {entry : Option Entry}
    (h : s.step c = .taken next entry) :
    s.advance c = (next.countLine c, entry.toList.map .entry) := by
  rw [advance, h]

theorem run_singleton (s : Scanner) (c : Char) : s.run [c] = s.advance c := by
  rw [run, run_nil, List.append_nil]

/-- One text after another. -/
theorem run_append {s mid last : Scanner} {cs ds : List Char} {seen more : List Event}
    (hcs : s.run cs = (mid, seen)) (hds : mid.run ds = (last, more)) :
    s.run (cs ++ ds) = (last, seen ++ more) := by
  induction cs generalizing s seen with
  | nil =>
      cases hcs
      exact hds
  | cons c cs ih =>
      rw [run] at hcs
      obtain ⟨hmid, hseen⟩ := Prod.mk.inj hcs
      have hrest := ih (Prod.ext hmid rfl)
      have hfirst : s.advance c = ((s.advance c).1, (s.advance c).2) := rfl
      rw [List.cons_append, run_cons hfirst hrest, ← hseen, List.append_assoc]

theorem run_append_eq (s : Scanner) (cs ds : List Char) :
    s.run (cs ++ ds) =
      (((s.run cs).1.run ds).1, (s.run cs).2 ++ ((s.run cs).1.run ds).2) :=
  run_append rfl rfl

/-- A character after which only entries are seen is taken without a problem. -/
theorem step_of_entries {s next : Scanner} {c : Char} {es : List Entry}
    (h : s.advance c = (next, es.map .entry)) :
    ∃ taken entry, s.step c = .taken taken entry ∧ taken.countLine c = next ∧
      entry.toList = es := by
  unfold advance at h
  split at h
  · rename_i taken entry hstep
    obtain ⟨hnext, hes⟩ := Prod.mk.inj h
    exact ⟨taken, entry, hstep, hnext, List.map_inj_right (by simp) |>.mp hes⟩
  · obtain ⟨-, hes⟩ := Prod.mk.inj h
    cases es <;> simp at hes

/-! ### Comments -/

/-- The text of a comment does nothing. -/
theorem run_in_comment {s : Scanner} (h : s.inComment = true) {body : List Char}
    (hbody : '\n' ∉ body) : s.run body = (s, []) := by
  induction body with
  | nil => rfl
  | cons c cs ih =>
      rw [List.mem_cons, not_or] at hbody
      obtain ⟨hc, hcs⟩ := hbody
      have hstep : s.step c = .taken s none := by
        simp [step, h, Ne.symm hc]
      have hcount : s.countLine c = s := by
        simp [countLine, Ne.symm hc]
      exact run_cons ((advance_of_taken hstep).trans (by rw [hcount])) (ih hcs)

/-- **A comment is read as if it were not there**, up to the newline that ends it. -/
theorem run_comment {s : Scanner} (hcomment : s.inComment = false)
    (hescaped : s.escaped = false) (hstring : s.inString = false) {body : List Char}
    (hbody : '\n' ∉ body) (rest : List Char) :
    s.run ('#' :: (body ++ '\n' :: rest)) = s.run ('\n' :: rest) := by
  have hopen : s.advance '#' = ({ s with inComment := true }, []) := by
    simp [advance, step, countLine, hcomment, hescaped, hstring]
  have hclosed : ({ s with inComment := false } : Scanner) = s := by
    rw [← hcomment]
  have hnewline : ({ s with inComment := true } : Scanner).advance '\n' = s.advance '\n' := by
    simp [advance, step, hcomment, hclosed]
  have hrest : ({ s with inComment := true } : Scanner).run ('\n' :: rest) =
      ((s.run ('\n' :: rest)).1, (s.run ('\n' :: rest)).2) := by
    rw [run, run, hnewline]
  have hinside := run_in_comment (s := { s with inComment := true }) rfl hbody
  have hall := run_cons hopen (run_append hinside hrest)
  rw [List.nil_append, List.nil_append] at hall
  exact hall

end Scanner

namespace Lexer

/-- A character that shows no problem is taken alike under every policy. -/
theorem feed_of_entries {l : Lexer} {c : Char} {next : Scanner} {es : List Entry}
    (h : l.scanner.advance c = (next, es.map .entry)) :
    l.feed c = ({ l with scanner := next, queue := l.queue ++ es }, none) := by
  obtain ⟨taken, entry, hstep, rfl, rfl⟩ := Scanner.step_of_entries h
  rw [feed, hstep]
  rfl

/-- A piece of a text that shows no problem is read alike under every policy. -/
theorem readOn_of_entries {l : Lexer} (haborted : l.aborted = false) (hqueue : l.queue = [])
    {cs : List Char} (rest : List Char) {s : Scanner} {es : List Entry}
    (h : l.scanner.run cs = (s, es.map .entry)) :
    l.readOn (cs ++ rest) =
      ((({ l with scanner := s } : Lexer).readOn rest).1,
        es.map .entry ++ (({ l with scanner := s } : Lexer).readOn rest).2) := by
  induction cs generalizing l es with
  | nil =>
      obtain ⟨rfl, hes⟩ := Prod.mk.inj h
      have hnil : es = [] := by simpa using hes.symm
      rw [hnil]
      rfl
  | cons c cs ih =>
      rw [Scanner.run] at h
      obtain ⟨hs, hes⟩ := Prod.mk.inj h
      obtain ⟨first, more, rfl, hfirst, hmore⟩ := List.map_eq_append_iff.mp hes.symm
      have hfeed := feed_of_entries (l := l) (Prod.ext rfl hfirst.symm)
      have hrest := ih (l := { l with scanner := (l.scanner.advance c).1 }) haborted hqueue
        (Prod.ext hs hmore.symm)
      simp only [haborted, hqueue] at hrest
      rw [List.cons_append, readOn, hfeed]
      simp only [drain, haborted, hqueue, Bool.false_eq_true, if_false, List.nil_append,
        Option.toList_none, List.map_nil, List.map_append, List.append_assoc]
      rw [hrest]

end Lexer

/-- **A text that shows no problem is read alike under every policy**: to its end, and as
the run of the machine says. -/
theorem readSettings_of_entries {text : List Char} {s : Scanner} {es : List Entry}
    (h : ({} : Scanner).run text = (s, es.map .entry)) (hend : s.endErrors = [])
    (policy : Policy) :
    readSettings policy text = ⟨(es ++ s.endEntry.toList).map .entry, true⟩ := by
  have hread := Lexer.readOn_of_entries (l := { policy := policy }) rfl rfl [] h
  rw [List.append_nil] at hread
  rw [readSettings, Lexer.read, Lexer.reset, hread]
  simp only [Lexer.readOn, Lexer.finish, Lexer.enqueue, hend, List.map_nil, Lexer.report,
    Lexer.drain, List.nil_append, List.map_append, Bool.not_false]

end TerminalConfig
