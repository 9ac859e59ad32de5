/-
What a text may have besides and is read alike.

A control character that is no newline leaves the machine as it is, unless it stands behind a
backslash, and a comment up to the end of its line does so too, but for the flag that says that
it is one.  That flag is not looked at by anything but the comment itself: the newline that ends
it and the end of the text are read as if it were not set.  So both may be put anywhere into a
text where the machine is not escaped, and a comment where it is not inside quotes either.

Behind a text that does not end in a backslash the machine is never escaped, so carriage returns
may stand before all newlines but those behind a backslash.
-/
import TerminalConfig.Proofs.Lexer.Lines
import TerminalConfig.Proofs.Lexer.SafeEscapes

namespace TerminalConfig

open Text

namespace Scanner

variable {s : Scanner} {c : Char}

theorem seen_cons (s : Scanner) (c : Char) (cs : List Char) :
    s.seen (c :: cs) = (s.advance c).2 ++ (s.advance c).1.seen cs := by
  rw [seen, run, seen, List.append_assoc]

/-! ### Control characters -/

/-- A control character that is no newline does nothing, unless it is escaped. -/
theorem advance_control (hescaped : s.escaped = false) (hcontrol : isControl c = true)
    (hc : c ≠ '\n') : s.advance c = (s, []) := by
  have hne {d : Char} (hd : isControl d = false) : c ≠ d := by
    rintro rfl
    rw [hcontrol] at hd
    exact absurd hd (by decide)
  have hplain : s.plain c = s := by
    rw [plain, if_pos hcontrol, ← hescaped]
  have hvalue : s.stepValue c = .taken s none := by
    simp [stepValue, hplain, hescaped, hc, hne (d := '\\') (by decide), hne (d := '"') (by decide),
      hne (d := '[') (by decide), hne (d := ']') (by decide)]
  have hkey : s.stepKey c = .taken s none := by
    simp [stepKey, hcontrol, hc, hne (d := '=') (by decide)]
  have hstep : s.step c = .taken s none := by
    simp [step, stepPlace, hvalue, hkey, hc, hne (d := '#') (by decide)]
  rw [advance_of_taken hstep, countLine_of_ne hc]
  rfl

/-- The character may be left out. -/
theorem seen_insert_control {first : List Char} (hescaped : (s.run first).1.escaped = false)
    (hcontrol : isControl c = true) (hc : c ≠ '\n') (rest : List Char) :
    s.seen (first ++ c :: rest) = s.seen (first ++ rest) := by
  rw [seen_append, seen_append, seen_cons, advance_control hescaped hcontrol hc, List.nil_append]

/-! ### Comments -/

/-- The text of a comment opens it and does nothing else. -/
theorem run_comment_open (hescaped : s.escaped = false) (hstring : s.inString = false)
    {body : List Char} (hbody : '\n' ∉ body) :
    s.run ('#' :: body) = ({ s with inComment := true }, []) := by
  have hopen : s.advance '#' = ({ s with inComment := true }, []) := by
    by_cases hcomment : s.inComment = true
    · have hsame : ({ s with inComment := true } : Scanner) = s := by rw [← hcomment]
      simp [advance, step, countLine, hcomment, hsame]
    · simp [advance, step, countLine, hcomment, hescaped, hstring]
  exact run_cons hopen (run_in_comment rfl hbody)

/-- Neither the end of a line nor the end of the text asks for a comment. -/
theorem seen_setComment {rest : List Char} (hrest : ∀ c ∈ rest.head?, c = '\n')
    (inComment : Bool) : ({ s with inComment := inComment } : Scanner).seen rest = s.seen rest := by
  cases rest with
  | nil => rfl
  | cons c cs =>
      obtain rfl : c = '\n' := hrest c rfl
      have hadvance : ({ s with inComment := inComment } : Scanner).advance '\n' =
          s.advance '\n' := by
        rw [advance, advance, step_newline, step_newline]
      rw [seen_cons, seen_cons, hadvance]

/-- The comment may be left out. -/
theorem seen_insert_comment {first : List Char} (hescaped : (s.run first).1.escaped = false)
    (hstring : (s.run first).1.inString = false) {body rest : List Char} (hbody : '\n' ∉ body)
    (hrest : ∀ c ∈ rest.head?, c = '\n') :
    s.seen (first ++ '#' :: (body ++ rest)) = s.seen (first ++ rest) := by
  rw [seen_append, seen_append, ← List.cons_append, seen_append,
    run_comment_open hescaped hstring hbody, List.nil_append, seen_setComment hrest]

/-! ### Carriage returns -/

/-- Behind a text that does not end in a backslash nothing is escaped. -/
theorem Follows.run {escaped : Bool} (h : s.Follows escaped) (text : List Char) :
    ∃ after, (s.run text).1.Follows after ∧
      (after = true → text = [] ∧ escaped = true ∨ text.getLast? = some '\\') := by
  induction text generalizing s escaped with
  | nil => exact ⟨escaped, h, fun hescaped => .inl ⟨rfl, hescaped⟩⟩
  | cons c cs ih =>
      obtain ⟨after, hfollows, hafter⟩ := ih (h.advance c)
      refine ⟨after, hfollows, fun hescaped => .inr ?_⟩
      obtain ⟨rfl, hc⟩ | hlast := hafter hescaped
      · rw [Bool.and_eq_true, beq_iff_eq] at hc
        rw [hc.1]
        rfl
      · rw [List.getLast?_cons, hlast]
        rfl

/-- The carriage returns may be left out. -/
theorem Follows.seen_returns (h : s.Follows false) {pieces : List (List Char)}
    (hpieces : ∀ piece ∈ pieces, piece.getLast? ≠ some '\\') (last : List Char) :
    s.seen (pieces.flatMap (· ++ ['\r', '\n']) ++ last) =
      s.seen (pieces.flatMap (· ++ ['\n']) ++ last) := by
  induction pieces generalizing s with
  | nil => rfl
  | cons piece pieces ih =>
      obtain ⟨hpiece, hrest⟩ := List.forall_mem_cons.mp hpieces
      obtain ⟨after, hfollows, hafter⟩ := h.run piece
      have hescaped : (s.run piece).1.escaped = false := by
        by_contra hescaped
        obtain ⟨-, hfalse⟩ | hlast := hafter (hfollows.of_escaped (by simpa using hescaped))
        · exact absurd hfalse (by decide)
        · exact hpiece hlast
      simp only [List.flatMap_cons, List.append_assoc, List.cons_append, List.nil_append]
      rw [seen_insert_control hescaped (by decide) (by decide), seen_append, seen_append, seen_cons,
        seen_cons, ih (hfollows.advance '\n') hrest]

end Scanner

/-! ### Readings -/

/-- **What a text has besides is not seen.**  Where the machine is not escaped a control
character that is no newline may be put into a text, and where it is not inside quotes either,
at the end of a line or of the text, a comment may; a reading shows the same entries and the same
problems.  So may carriage returns before newlines, if no backslash stands before them: here a
piece of the text is whatever comes before such a newline, which may be several lines. -/
theorem readSettings_insertion {policy : Policy} (hnever : ∀ heard, policy.stops heard = false) :
    (∀ first rest : List Char,
      (({ policy := policy } : Lexer).feedAll first).1.scanner.escaped = false →
      ∀ c, isControl c = true → c ≠ '\n' →
        readSettings policy (first ++ c :: rest) = readSettings policy (first ++ rest)) ∧
    (∀ first rest : List Char,
      (({ policy := policy } : Lexer).feedAll first).1.scanner.escaped = false →
      (({ policy := policy } : Lexer).feedAll first).1.scanner.inString = false →
      (rest = [] ∨ ∃ more, rest = '\n' :: more) →
      ∀ comment : List Char, '\n' ∉ comment →
        readSettings policy (first ++ '#' :: (comment ++ rest)) =
          readSettings policy (first ++ rest)) ∧
    (∀ (pieces : List (List Char)) (last : List Char),
      (∀ piece ∈ pieces, piece.getLast? ≠ some '\\') →
      readSettings policy (pieces.flatMap (· ++ ['\r', '\n']) ++ last) =
        readSettings policy (pieces.flatMap (· ++ ['\n']) ++ last)) := by
  have hstate (first : List Char) : (({ policy := policy } : Lexer).feedAll first).1.scanner =
      (({} : Scanner).run first).1 := Lexer.feedAll_never hnever rfl first
  simp only [hstate, readSettings_never hnever]
  refine ⟨fun first rest hescaped c hcontrol hc => ?_,
    fun first rest hescaped hstring hrest comment hcomment => ?_, fun pieces last hpieces => ?_⟩
  · rw [Scanner.seen_insert_control hescaped hcontrol hc]
  · have hhead : ∀ c ∈ rest.head?, c = '\n' := by
      obtain rfl | ⟨more, rfl⟩ := hrest <;> simp
    rw [Scanner.seen_insert_comment hescaped hstring hcomment hhead]
  · rw [Scanner.follows_start.seen_returns hpieces]

/-- A tab inside quotes, a comment with a quote and a bracket inside a list that goes on behind
it, and carriage returns before two of the newlines, one of which is in the list. -/
theorem readSettings_insertion_inside :
    let first := "a = \"x".toList
    let inList := "y\"\nb = [c,".toList
    let last := "\n d]\ne = f\n".toList
    let plain := readSettings .listen (first ++ inList ++ last)
    readSettings .listen (first ++ '\t' :: (inList ++ last)) = plain ∧
      readSettings .listen (first ++ inList ++ '#' :: (" \" ]".toList ++ last)) = plain ∧
      readSettings .listen ([first ++ inList, " d]".toList].flatMap (· ++ ['\r', '\n']) ++
        "e = f\n".toList) = plain ∧
      plain.entries = [⟨"a", some "xy", 1⟩, ⟨"b", some "[c, d]", 2⟩, ⟨"e", some "f", 4⟩] := by
  intro first inList last plain
  have hnever : ∀ heard, Policy.listen.stops heard = false := fun _ => rfl
  obtain ⟨hcontrol, hcomment, hreturns⟩ := readSettings_insertion hnever
  have hjoined : first ++ (inList ++ last) = first ++ inList ++ last :=
    (List.append_assoc first inList last).symm
  refine ⟨?_, ?_, ?_, by decide +kernel⟩
  · rw [hcontrol first (inList ++ last) (by decide +kernel) '\t' (by decide) (by decide), hjoined]
  · exact hcomment (first ++ inList) last (by decide +kernel) (by decide +kernel) (.inr ⟨_, rfl⟩)
      " \" ]".toList (by decide)
  · exact hreturns [first ++ inList, " d]".toList] "e = f\n".toList (by decide)

end TerminalConfig
