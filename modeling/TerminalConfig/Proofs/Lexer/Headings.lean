/-
The lines of a settings text and the entries they give.

A line that does not start inside a value is a heading: what is before its first equals sign
or number sign, and whether it is the equals sign that comes first.  It gives an entry if it
has an equals sign there, or a key.  A line that starts inside a value, as a line of a list
does, gives none, whatever it looks like.

An entry is complete only at a newline, which may be many lines below its heading.  So the
induction is on the lines, and what goes through it is the heading of the entry that is
still to come: the entries of a text are that one and then one for each heading further on.
-/
import TerminalConfig.Proofs.Lexer.Lines
import Mathlib.Data.List.TakeWhile

namespace TerminalConfig

open Text

/-! ### Headings -/

/-- The character ends the key of a line. -/
def endsKey (c : Char) : Bool :=
  c == '=' || c == '#'

/-- The character is neither a blank nor a control character. -/
def joinsKey (c : Char) : Bool :=
  !isBlank c && !isControl c

/-- The key of a line, without blanks and control characters. -/
def lineKey (line : List Char) : String :=
  String.ofList ((line.takeWhile (!endsKey ·)).filter joinsKey)

/-- An equals sign ends the key of the line. -/
def lineAssigns (line : List Char) : Bool :=
  line.find? endsKey == some '='

/-- What a line says about its entry. -/
structure Heading where
  key : String
  /-- The entry has a value. -/
  assigns : Bool
  line : Nat
deriving DecidableEq, Repr

def Entry.heading (e : Entry) : Heading :=
  ⟨e.key, e.value.isSome, e.line⟩

/-- The heading of a line that does not start inside a value. -/
def headingOf (n : Nat) (line : List Char) : Option Heading :=
  if lineAssigns line = true ∨ lineKey line ≠ "" then some ⟨lineKey line, lineAssigns line, n⟩
  else none

/-! ### A line -/

namespace Scanner

variable {s t : Scanner} {c : Char} {line : List Char}

/-- Both machines are in the value of one key. -/
structure SameValue (s t : Scanner) : Prop where
  inValue : t.inValue = true
  key : t.key = s.key
  keyLine : t.keyLine = s.keyLine

theorem plain_sameValue (h : s.inValue = true) : s.SameValue (s.plain c) := by
  unfold plain push
  grind [SameValue]

theorem toggleQuote_sameValue (h : s.inValue = true) : s.SameValue s.toggleQuote := by
  unfold toggleQuote push
  grind [SameValue]

/-- Only a newline outside lists ends a value. -/
theorem stepValue_sameValue (h : s.inValue = true) (hc : c ≠ '\n' ∨ s.inList = true) :
    (s.stepValue c).Leads s.SameValue := by
  have hself : s.SameValue s := ⟨h, rfl, rfl⟩
  have hplain (b : Bool) (d : Char) : s.SameValue (({ s with inList := b } : Scanner).plain d) :=
    { plain_sameValue (s := { s with inList := b }) h with }
  have htoggle (value : String) : s.SameValue ({ s with value := value } : Scanner).toggleQuote :=
    { toggleQuote_sameValue (s := { s with value := value }) h with }
  by_cases hlist : s.inList = true
  · have hstep := stepValue_listStep (c := c) hlist
    generalize s.stepValue c = step at hstep ⊢
    cases hstep with
    | escaped => exact plain_sameValue h
    | backslash => exact ⟨h, rfl, rfl⟩
    | quote => exact toggleQuote_sameValue h
    | opening => exact ⟨plain_sameValue h, hself⟩
    | closing => exact hplain false ']'
    | plain => exact plain_sameValue h
  · have hnewline : c ≠ '\n' := hc.resolve_right hlist
    have hstep := stepValue_textStep (c := c) (by simpa using hlist)
    generalize s.stepValue c = step at hstep ⊢
    cases hstep with
    | newline => exact absurd rfl hnewline
    | openLine => exact absurd rfl hnewline
    | escapedNewline => exact ⟨h, rfl, rfl⟩
    | escapedQuote => exact ⟨h, rfl, rfl⟩
    | badEscape => exact ⟨⟨h, rfl, rfl⟩, hself⟩
    | backslash => exact ⟨h, rfl, rfl⟩
    | quote => exact toggleQuote_sameValue h
    | lateQuote => exact ⟨htoggle "", hself⟩
    | opening => exact hplain true '['
    | closing => exact ⟨plain_sameValue h, hself⟩
    | plain => exact plain_sameValue h

theorem step_sameValue (h : s.inValue = true) (hc : c ≠ '\n' ∨ s.inList = true) :
    (s.step c).Leads s.SameValue := by
  have hplace (b : Bool) :
      (({ s with inComment := b } : Scanner).stepPlace c).Leads s.SameValue := by
    have hvalue := stepValue_sameValue (s := { s with inComment := b }) h hc
    rw [stepPlace, if_pos (by exact h)]
    exact hvalue.imp fun t ht => { ht with }
  unfold step
  split
  · split
    · exact hplace false
    · exact ⟨h, rfl, rfl⟩
  · split
    · exact ⟨h, rfl, rfl⟩
    · exact hplace s.inComment

theorem SameValue.countLine (h : s.SameValue t) (c : Char) : s.SameValue (t.countLine c) := by
  unfold Scanner.countLine
  split
  · exact { h with }
  · exact h

theorem advance_sameValue (h : s.inValue = true) (hc : c ≠ '\n' ∨ s.inList = true) :
    s.SameValue (s.advance c).1 :=
  advance_of_leads (fun _ ht => ht.countLine c) (step_sameValue h hc)

/-- The rest of a line of a value stays in the value. -/
theorem run_sameValue (h : s.inValue = true) (hline : '\n' ∉ line) :
    s.SameValue (s.run line).1 := by
  induction line generalizing s with
  | nil => exact ⟨h, rfl, rfl⟩
  | cons c cs ih =>
      rw [List.mem_cons, not_or] at hline
      have hfirst := advance_sameValue h (Or.inl (Ne.symm hline.1))
      have hrest := ih hfirst.inValue hline.2
      exact ⟨hrest.inValue, hrest.key.trans hfirst.key, hrest.keyLine.trans hfirst.keyLine⟩

theorem entriesOf_advance (s : Scanner) (c : Char) :
    entriesOf (s.advance c).2 = (s.step c).entry.toList := by
  unfold advance
  cases s.step c <;> simp [Step.entry]

/-- Inside a line no entry is complete. -/
theorem entriesOf_run_line (h : s.IdleOutside) (hline : '\n' ∉ line) :
    entriesOf (s.run line).2 = [] := by
  induction line generalizing s with
  | nil => rfl
  | cons c cs ih =>
      rw [List.mem_cons, not_or] at hline
      have hother : ¬(c = '\n' ∧ s.inList = false) := fun hc => hline.1 hc.1.symm
      rw [run, entriesOf_append, entriesOf_advance, step_entry h, if_neg hother,
        ih (h.advance c) hline.2]
      rfl

/-! ### The key of a line -/

variable {n keyLine : Nat}

theorem run_keyPart_singleton (hends : endsKey c = false) (hc : c ≠ '\n') (held : String) :
    (keyRead n keyLine held).run [c] =
      (keyRead n keyLine (held ++ String.ofList ([c].filter joinsKey)), []) := by
  rw [endsKey, Bool.or_eq_false_iff, beq_eq_false_iff_ne, beq_eq_false_iff_ne] at hends
  by_cases hjoins : joinsKey c = true
  · rw [List.filter_cons_of_pos hjoins]
    rw [joinsKey] at hjoins
    exact run_keyChar (by simpa [isKeyChar, hends] using hjoins) held
  · rw [List.filter_cons_of_neg hjoins, List.filter_nil, String.ofList_nil, String.append_empty]
    refine run_of_taken ?_ hc
    rw [joinsKey, ← Bool.not_or, Bool.not_eq_true, Bool.not_eq_false', Bool.or_comm] at hjoins
    simp [step, stepPlace, stepKey, keyRead, hends, hc, hjoins]

/-- What is before the equals sign and the number sign joins the key. -/
theorem run_keyPart {cs : List Char} (hends : ∀ c ∈ cs, endsKey c = false) (hline : '\n' ∉ cs)
    (held : String) :
    (keyRead n keyLine held).run cs =
      (keyRead n keyLine (held ++ String.ofList (cs.filter joinsKey)), []) := by
  induction cs generalizing held with
  | nil => rw [List.filter_nil, String.ofList_nil, String.append_empty, run_nil]
  | cons c cs ih =>
      obtain ⟨hfirst, hrest⟩ := List.forall_mem_cons.mp hends
      rw [List.mem_cons, not_or] at hline
      have hrun := run_append (run_keyPart_singleton hfirst (Ne.symm hline.1) held)
        (ih hrest hline.2 _)
      rw [String.append_assoc, ← String.ofList_append, ← List.filter_append] at hrun
      exact hrun

/-- The machine where the key of a line ends. -/
theorem run_lineKey (hline : '\n' ∉ line) :
    ((lineStart n keyLine).run line).1 =
      ((keyRead n keyLine (lineKey line)).run (line.dropWhile (!endsKey ·))).1 := by
  have hends : ∀ c ∈ line.takeWhile (!endsKey ·), endsKey c = false :=
    fun c hc => by simpa using List.mem_takeWhile_imp hc
  have hkey : (lineStart n keyLine).run (line.takeWhile (!endsKey ·)) =
      (keyRead n keyLine ("" ++ lineKey line), []) :=
    run_keyPart hends (fun h => hline ((List.takeWhile_sublist _).subset h)) ""
  rw [String.empty_append] at hkey
  conv => lhs; rw [← List.takeWhile_append_dropWhile (p := (!endsKey ·)) (l := line)]
  rw [run_append_eq, hkey]

/-- **A line that does not start inside a value leaves the entry of its heading to its end.** -/
theorem endEntry_run_line (hline : '\n' ∉ line) :
    ((lineStart n keyLine).run line).1.endEntry.map Entry.heading = headingOf n line := by
  have hassigns : lineAssigns line = ((line.dropWhile (!endsKey ·)).head? == some '=') := by
    rw [lineAssigns, List.find?_eq_head?_dropWhile_not]
  have hflag : (keyRead n keyLine (lineKey line)).endEntry.map Entry.heading =
      if lineKey line ≠ "" then some ⟨lineKey line, false, n⟩ else none := by
    by_cases hempty : lineKey line = "" <;>
      simp [endEntry, flagEntry, keyRead, Entry.heading, hempty]
  rw [run_lineKey hline, headingOf, hassigns]
  cases hcut : line.dropWhile (!endsKey ·) with
  | nil =>
      rw [run_nil, hflag]
      simp
  | cons c rest =>
      have hrest : '\n' ∉ c :: rest := by
        rw [← hcut]
        exact fun h => hline ((List.dropWhile_sublist _).subset h)
      have hends : endsKey c = true := by
        simpa [hcut] using List.head_dropWhile_not (p := (!endsKey ·)) (l := line) (by simp [hcut])
      rw [List.mem_cons, not_or] at hrest
      rw [endsKey, Bool.or_eq_true, beq_iff_eq, beq_iff_eq] at hends
      rw [run]
      obtain rfl | rfl := hends
      · -- what follows the equals sign is the value
        obtain ⟨hvalue, hkey, hkeyLine⟩ :=
          run_sameValue (s := inPlain n (lineKey line) "") rfl hrest.2
        have hentry : ((inPlain n (lineKey line) "").run rest).1.endEntry.map Entry.heading =
            some ⟨lineKey line, true, n⟩ := by
          rw [endEntry, if_pos hvalue, valueEntry, hkey, hkeyLine]
          rfl
        exact hentry.trans (by simp)
      · -- what follows the number sign is a comment
        have hcomment := run_in_comment
          (s := { keyRead n keyLine (lineKey line) with inComment := true }) rfl hrest.2
        have hhash : (keyRead n keyLine (lineKey line)).advance '#' =
            ({ keyRead n keyLine (lineKey line) with inComment := true }, []) := rfl
        rw [hhash, hcomment]
        exact hflag.trans (by simp)

/-! ### Line after line -/

/-- The machine stands at the start of a line, be it a line of a value. -/
def AtLine (s : Scanner) : Prop :=
  s.inValue = false → s = lineStart s.line s.keyLine

/-- The heading of the entry that is still to come, when a line starts inside its value. -/
def pending (s : Scanner) : Option Heading :=
  if s.inValue then some ⟨s.key, true, s.keyLine⟩ else none

/-- The heading that the next line is. -/
def heading (s : Scanner) (line : List Char) : Option Heading :=
  if s.inValue then none else headingOf s.line line

/-- The headings among lines. -/
def headings (s : Scanner) : List (List Char) → List Heading
  | [] => []
  | line :: lines => (s.heading line).toList ++ (s.run (line ++ ['\n'])).1.headings lines

theorem AtLine.idleOutside (h : s.AtLine) : s.IdleOutside := by
  intro hvalue
  rw [h hvalue]
  exact ⟨rfl, rfl, rfl, rfl, rfl⟩

/-- The end of a line would complete the entry that is to come, or that of the line. -/
theorem AtLine.endEntry_run (h : s.AtLine) (hline : '\n' ∉ line) :
    ((s.run line).1.endEntry.map Entry.heading).toList =
      s.pending.toList ++ (s.heading line).toList := by
  unfold pending heading
  by_cases hvalue : s.inValue = true
  · obtain ⟨hlast, hkey, hkeyLine⟩ := run_sameValue hvalue hline
    rw [if_pos hvalue, if_pos hvalue, endEntry, if_pos hlast, valueEntry, hkey, hkeyLine]
    rfl
  · rw [if_neg hvalue, if_neg hvalue, h (by simpa using hvalue), endEntry_run_line hline]
    rfl

/-- A newline completes the entry, or leaves it to come. -/
theorem IdleOutside.newline (h : s.IdleOutside) :
    (s.advance '\n').1.AtLine ∧
      (entriesOf (s.advance '\n').2).map Entry.heading ++ (s.advance '\n').1.pending.toList =
        (s.endEntry.map Entry.heading).toList := by
  rw [entriesOf_advance, step_entry h]
  by_cases hlist : s.inList = true
  · have hvalue := h.inValue_of_inList hlist
    obtain ⟨hnext, hkey, hkeyLine⟩ := advance_sameValue (c := '\n') hvalue (Or.inr hlist)
    refine ⟨fun hout => absurd hnext (by rw [hout]; decide), ?_⟩
    rw [pending, if_pos hnext, hkey, hkeyLine, endEntry, if_pos hvalue, hlist]
    rfl
  · rw [Bool.not_eq_true] at hlist
    rw [h.advance_newline hlist, if_pos ⟨rfl, hlist⟩]
    refine ⟨fun _ => rfl, ?_⟩
    rw [Option.toList_map]
    exact List.append_nil _

/-- **A line adds its heading to the entries that are complete or still to come.** -/
theorem AtLine.run_newline (h : s.AtLine) (hline : '\n' ∉ line) :
    (s.run (line ++ ['\n'])).1.AtLine ∧
      (entriesOf (s.run (line ++ ['\n'])).2).map Entry.heading ++
          (s.run (line ++ ['\n'])).1.pending.toList =
        s.pending.toList ++ (s.heading line).toList := by
  obtain ⟨hnext, hentries⟩ := (h.idleOutside.run line).newline
  rw [run_append_eq, run_singleton]
  refine ⟨hnext, ?_⟩
  rw [entriesOf_append, entriesOf_run_line h.idleOutside hline, List.nil_append, hentries,
    h.endEntry_run hline]

theorem seen_line (h : s.IdleOutside) (hline : '\n' ∉ line) :
    entriesOf (s.seen line) = (s.run line).1.endEntry.toList := by
  rw [seen, entriesOf_append, entriesOf_run_line h hline, entriesOf_append, entriesOf_problems,
    entriesOf_entries]
  rfl

/-- **The entries of a text are the one that is still to come, and one for each heading.** -/
theorem AtLine.seen_headings {lines : List (List Char)} (h : s.AtLine) (hne : lines ≠ [])
    (hlines : ∀ line ∈ lines, '\n' ∉ line) :
    (entriesOf (s.seen (['\n'].intercalate lines))).map Entry.heading =
      s.pending.toList ++ s.headings lines := by
  induction lines generalizing s with
  | nil => exact absurd rfl hne
  | cons line lines ih =>
      obtain ⟨hline, hrest⟩ := List.forall_mem_cons.mp hlines
      cases lines with
      | nil =>
          rw [List.intercalate_singleton, seen_line h.idleOutside hline, ← Option.toList_map,
            h.endEntry_run hline, headings, headings, List.append_nil]
      | cons next lines =>
          obtain ⟨hnext, hentries⟩ := h.run_newline hline
          rw [List.intercalate_cons_cons, seen_append, entriesOf_append, List.map_append,
            ih hnext (List.cons_ne_nil _ _) hrest, ← List.append_assoc, hentries, List.append_assoc]
          rfl

/-! ### What the headings are -/

variable {lines : List (List Char)} {h : Heading}

theorem eq_of_headingOf {n : Nat} (hof : headingOf n line = some h) :
    h = ⟨lineKey line, lineAssigns line, n⟩ := by
  unfold headingOf at hof
  grind

theorem headingOf_of_heading (hof : s.heading line = some h) : headingOf s.line line = some h := by
  unfold heading at hof
  grind

theorem line_of_heading (hof : s.heading line = some h) : h.line = s.line := by
  rw [eq_of_headingOf (headingOf_of_heading hof)]

theorem run_newline_line (s : Scanner) (hline : '\n' ∉ line) :
    (s.run (line ++ ['\n'])).1.line = s.line + 1 := by
  rw [run_line, List.count_append, List.count_eq_zero.mpr hline]
  rfl

/-- Every heading is a line. -/
theorem exists_of_mem_headings (hlines : ∀ line ∈ lines, '\n' ∉ line)
    (hmem : h ∈ s.headings lines) :
    ∃ i line, lines[i]? = some line ∧ headingOf (s.line + i) line = some h := by
  induction lines generalizing s with
  | nil => exact absurd hmem List.not_mem_nil
  | cons line lines ih =>
      obtain ⟨hline, hrest⟩ := List.forall_mem_cons.mp hlines
      rw [headings, List.mem_append, Option.mem_toList] at hmem
      obtain hfirst | hlater := hmem
      · exact ⟨0, line, rfl, headingOf_of_heading hfirst⟩
      · obtain ⟨i, found, hfound, hof⟩ := ih hrest hlater
        refine ⟨i + 1, found, hfound, ?_⟩
        rw [run_newline_line s hline, Nat.add_assoc, Nat.add_comm 1] at hof
        exact hof

theorem le_line_of_mem_headings (hlines : ∀ line ∈ lines, '\n' ∉ line)
    (hmem : h ∈ s.headings lines) : s.line ≤ h.line := by
  obtain ⟨i, line, -, hof⟩ := exists_of_mem_headings hlines hmem
  rw [eq_of_headingOf hof]
  exact Nat.le_add_right _ _

/-- Each heading is further down than those before it. -/
theorem pairwise_headings (hlines : ∀ line ∈ lines, '\n' ∉ line) :
    (s.headings lines).Pairwise (·.line < ·.line) := by
  induction lines generalizing s with
  | nil => exact List.Pairwise.nil
  | cons line lines ih =>
      obtain ⟨hline, hrest⟩ := List.forall_mem_cons.mp hlines
      rw [headings, List.pairwise_append]
      refine ⟨?_, ih hrest, ?_⟩
      · cases s.heading line <;> simp
      · intro first hfirst later hlater
        have hbelow := le_line_of_mem_headings hrest hlater
        have hat := line_of_heading (Option.mem_toList.mp hfirst)
        rw [run_newline_line s hline] at hbelow
        omega

/-- A line is the only heading at its number, or there is none. -/
theorem count_headings (hlines : ∀ line ∈ lines, '\n' ∉ line) {i : Nat}
    (hi : lines[i]? = some line) :
    (s.headings lines).countP (·.line = s.line + i) =
      ((s.run ((lines.take i).flatMap (· ++ ['\n']))).1.heading line).toList.length := by
  induction lines generalizing s i with
  | nil => exact absurd hi (by simp)
  | cons first lines ih =>
      obtain ⟨hfirst, hrest⟩ := List.forall_mem_cons.mp hlines
      have hat : ∀ h ∈ (s.heading first).toList, h.line = s.line :=
        fun h hmem => line_of_heading (Option.mem_toList.mp hmem)
      have hnext := run_newline_line s hfirst
      rw [headings, List.countP_append]
      cases i with
      | zero =>
          obtain rfl : first = line := by simpa using hi
          have hbelow : ∀ h ∈ (s.run (first ++ ['\n'])).1.headings lines, ¬h.line = s.line := by
            intro h hmem
            have hle := le_line_of_mem_headings hrest hmem
            omega
          have hall : (s.heading first).toList.countP (·.line = s.line) =
              (s.heading first).toList.length :=
            List.countP_eq_length.mpr (by simpa using hat)
          have hnone : ((s.run (first ++ ['\n'])).1.headings lines).countP (·.line = s.line) = 0 :=
            List.countP_eq_zero.mpr (by simpa using hbelow)
          rw [Nat.add_zero, hall, hnone]
          rfl
      | succ i =>
          have hnone : (s.heading first).toList.countP (·.line = s.line + (i + 1)) = 0 := by
            rw [List.countP_eq_zero]
            intro h hmem
            rw [decide_eq_true_eq, hat h hmem]
            omega
          have hlater := ih (s := (s.run (first ++ ['\n'])).1) hrest hi
          rw [hnext, Nat.add_assoc, Nat.add_comm 1] at hlater
          rw [hnone, hlater, Nat.zero_add, List.take_succ_cons, List.flatMap_cons,
            run_append_eq s (first ++ _)]

theorem length_heading (s : Scanner) (line : List Char) :
    (s.heading line).toList.length =
      if s.inValue = false ∧ (lineAssigns line = true ∨ lineKey line ≠ "") then 1 else 0 := by
  unfold heading headingOf
  grind

end Scanner

/-! ### The lines of a text -/

theorem not_mem_of_mem_splitOn {text line : List Char} (h : line ∈ text.splitOn '\n') :
    '\n' ∉ line := by
  induction text generalizing line with
  | nil => simp_all
  | cons c cs ih =>
      rw [List.splitOn_cons_eq_if_modifyHead] at h
      cases hcs : cs.splitOn '\n' with
      | nil => exact absurd hcs (List.splitOn_ne_nil _ _)
      | cons first rest =>
          rw [hcs] at h ih
          split at h
          · obtain rfl | hrest := List.mem_cons.mp h
            · exact List.not_mem_nil
            · exact ih hrest
          · rename_i hc
            obtain rfl | hrest := List.mem_cons.mp h
            · have hfirst := ih List.mem_cons_self
              rw [List.mem_cons, not_or]
              exact ⟨fun hnewline => hc (by simp [← hnewline]), hfirst⟩
            · exact ih (List.mem_cons_of_mem _ hrest)

/-- **Lines and entries.**  In a reading that is never stopped the entries have the numbers of
lines, each greater than the one before it.  An entry has the key of its line, and a value if an
equals sign ends that key.  A line at whose start the reader is in a value gives no entry; any
other gives one if an equals sign ends its key or if it has a key, and else none. -/
theorem readSettings_lines {policy : Policy} (hnever : ∀ heard, policy.stops heard = false)
    (text : List Char) :
    let lines := text.splitOn '\n'
    let entries := (readSettings policy text).entries
    entries.Pairwise (·.line < ·.line) ∧
    (∀ e ∈ entries, ∃ i line, lines[i]? = some line ∧ e.line = i + 1 ∧ e.key = lineKey line ∧
      (e.value = none ↔ lineAssigns line = false)) ∧
    ∀ i line, lines[i]? = some line →
      let before := (lines.take i).flatMap (· ++ ['\n'])
      let start := (({ policy := policy } : Lexer).feedAll before).1.scanner
      entries.countP (·.line = i + 1) =
        if start.inValue = false ∧ (lineAssigns line = true ∨ lineKey line ≠ "") then 1 else 0 := by
  intro lines entries
  have hlines : ∀ line ∈ lines, '\n' ∉ line := fun line => not_mem_of_mem_splitOn
  have hstart : ({} : Scanner).AtLine := fun _ => rfl
  have hentries : entries.map Entry.heading = ({} : Scanner).headings lines := by
    have hseen := hstart.seen_headings (List.splitOn_ne_nil _ _) hlines
    rw [List.intercalate_splitOn] at hseen
    rw [show entries = _ from congrArg Reading.entries (readSettings_never hnever text)]
    exact hseen
  refine ⟨?_, ?_, ?_⟩
  · have hpairwise := Scanner.pairwise_headings (s := {}) hlines
    rw [← hentries, List.pairwise_map] at hpairwise
    exact hpairwise
  · intro e he
    have hmem : e.heading ∈ ({} : Scanner).headings lines := by
      rw [← hentries]
      exact List.mem_map_of_mem he
    obtain ⟨i, line, hi, hof⟩ := Scanner.exists_of_mem_headings hlines hmem
    obtain ⟨hkey, hvalue, hline⟩ := Heading.mk.inj (Scanner.eq_of_headingOf hof)
    refine ⟨i, line, hi, hline.trans (Nat.add_comm 1 i), hkey, ?_⟩
    rw [← hvalue, Option.isSome_eq_false_iff, Option.isNone_iff_eq_none]
  · intro i line hi before start
    have hcount := Scanner.count_headings (s := {}) hlines hi
    rw [← hentries, List.countP_map, Scanner.length_heading, Nat.add_comm] at hcount
    rw [show start = _ from Lexer.feedAll_never hnever rfl before]
    exact hcount

/-- One line is a key alone, one a comment, one starts a list that ends on the next, one has no
key, one has a comment behind its key, and the last ends inside quotes. -/
theorem readSettings_lines_listAndComments :
    let text := "a\n# b = 1\nc d = [ x,\n e = y ]\n= z\nf\" # = w\ng = \"h".toList
    let entries := (readSettings .listen text).entries
    (∀ heard, Policy.listen.stops heard = false) ∧
      entries.map (fun e => (e.key, e.value, e.line)) =
        [("a", none, 1), ("cd", some "[ x, e = y ]", 3), ("", some "z", 5), ("f\"", none, 6),
          ("g", some "h", 7)] ∧
      entries.Pairwise (·.line < ·.line) ∧
      entries.countP (·.line = 3) = 1 ∧ entries.countP (·.line = 4) = 0 := by
  intro text entries
  have hnever : ∀ heard, Policy.listen.stops heard = false := fun _ => rfl
  obtain ⟨hpairwise, -, hcount⟩ := readSettings_lines hnever text
  have hopening := hcount 2 "c d = [ x,".toList (by decide +kernel)
  have hinside := hcount 3 " e = y ]".toList (by decide +kernel)
  exact ⟨hnever, by decide +kernel, hpairwise, hopening.trans (by decide +kernel),
    hinside.trans (by decide +kernel)⟩

end TerminalConfig
