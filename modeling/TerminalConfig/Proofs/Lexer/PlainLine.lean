/-
Lines whose value is plain text.

A text in which nothing has a meaning of its own can stand in a value as it is or between
quotes.  As it is, the blanks around it do not count: those before it are dropped where they
stand, and the others wait, and count only if more of the text follows.  Between quotes every
blank counts.

Tabs are the exception.  A tab is a blank, but it is a control character as well, and those are
left out of every value before anything is asked about blanks.  So a text with a tab inside
does not survive being read, and a text with a tab anywhere does not survive between quotes.
-/
import TerminalConfig.Proofs.Lexer.Line
import TerminalConfig.Proofs.ListValue.Scan
import TerminalConfig.Proofs.Text.Trim
import Mathlib.Data.List.DropRight

namespace TerminalConfig

open Text

/-- A character with no meaning of its own in a value.  Of the control characters only the tab
is one. -/
def isTextChar (c : Char) : Bool :=
  c ∉ ['"', '\\', '#', '[', ']'] && (!isControl c || c == '\t')

theorem isTextChar_iff {c : Char} :
    isTextChar c = true ↔ c ∉ ['"', '\\', '#', '[', ']'] ∧ (isControl c = true → c = '\t') := by
  rw [isTextChar, Bool.and_eq_true, decide_eq_true_eq, Bool.or_eq_true, Bool.not_eq_true',
    beq_iff_eq, ← Bool.not_eq_true, or_iff_not_imp_left, Classical.not_not]

/-- A text without its tabs. -/
def withoutTabs (cs : List Char) : List Char :=
  cs.filter (· != '\t')

theorem withoutTabs_concat (cs : List Char) (c : Char) :
    withoutTabs (cs ++ [c]) = withoutTabs cs ++ if c = '\t' then [] else [c] := by
  rw [withoutTabs, List.filter_append, withoutTabs]
  by_cases h : c = '\t' <;> simp [h]

theorem withoutTabs_eq_self_iff {cs : List Char} : withoutTabs cs = cs ↔ '\t' ∉ cs := by
  rw [withoutTabs, List.filter_eq_self]
  constructor
  · intro h hmem
    exact absurd (h _ hmem) (by decide)
  · intro h c hc
    rw [bne_iff_ne]
    rintro rfl
    exact h hc

/-- A tab at the end of a text is trimmed, so it makes no difference whether tabs are left out
before or after. -/
theorem withoutTabs_trimBlanks (cs : List Char) :
    withoutTabs (trimBlanks cs) = trimBlanks (withoutTabs cs) :=
  filter_trimWith (fun c hc => by simp_all [isBlank]) cs

namespace Scanner

variable {line : Nat} {key value : String} {c : Char} {cs : List Char}

/-! ### Outside quotes -/

/-- In the value of a line, outside quotes, with blanks that wait. -/
def inPlainAfter (line : Nat) (key value blanks : String) : Scanner :=
  { inPlain line key value with blanks := blanks }

theorem run_plainTab (blanks : String) :
    (inPlainAfter line key value blanks).run ['\t'] = (inPlainAfter line key value blanks, []) :=
  rfl

/-- A blank waits, except at the start of the value. -/
theorem run_plainBlank (blanks : String) :
    (inPlainAfter line key value blanks).run [' '] =
      (inPlainAfter line key value (if value = "" then blanks else blanks.push ' '), []) := by
  have hstep : (inPlainAfter line key value blanks).step ' ' =
      .taken ((inPlainAfter line key value blanks).plain ' ') none := rfl
  rw [run_of_taken hstep (by decide)]
  by_cases hvalue : value = "" <;>
    simp [plain, inPlainAfter, inPlain, hvalue, isControl, isBlank]

/-- Any other character joins the value, after the blanks that wait. -/
theorem run_plainSolid (hc : isValueChar c = true) (blanks : String) :
    (inPlainAfter line key value blanks).run [c] =
      (inPlainAfter line key ((value ++ blanks).push c) "", []) := by
  simp only [isValueChar, Bool.and_eq_true, Bool.not_eq_true', decide_eq_true_eq, List.mem_cons,
    List.not_mem_nil, or_false, not_or] at hc
  obtain ⟨⟨hblank, hcontrol⟩, hquote, hbackslash, hopen, hclose, hcomment⟩ := hc
  have hnewline : c ≠ '\n' := by
    rintro rfl
    exact absurd hcontrol (by decide)
  refine run_of_taken ?_ hnewline
  simp [step, stepPlace, stepValue, plain, push, inPlainAfter, inPlain, hblank, hcontrol, hquote,
    hbackslash, hopen, hclose, hcomment, hnewline]

/-- The blanks of a text that wait at its end. -/
def waitingBlanks (cs : List Char) : List Char :=
  (cs.dropWhile isBlank).rtakeWhile isBlank

theorem trimBlanks_eq (cs : List Char) :
    trimBlanks cs = (cs.dropWhile isBlank).rdropWhile isBlank := rfl

/-- A text with nothing but blanks holds nothing, and nothing waits. -/
theorem dropWhile_of_trimBlanks_eq_nil (h : trimBlanks cs = []) : cs.dropWhile isBlank = [] := by
  rw [trimBlanks_eq, List.rdropWhile_eq_nil_iff] at h
  by_contra hne
  have hhead := List.head_dropWhile_not (p := isBlank) (l := cs) hne
  exact absurd (h _ (List.head_mem hne)) (by simp [hhead])

theorem trimBlanks_concat_blank (hc : isBlank c = true) :
    trimBlanks (cs ++ [c]) = trimBlanks cs ∧
      waitingBlanks (cs ++ [c]) =
        if trimBlanks cs = [] then waitingBlanks cs else waitingBlanks cs ++ [c] := by
  rw [trimBlanks_eq, trimBlanks_eq, waitingBlanks, waitingBlanks, List.dropWhile_append]
  by_cases hcs : cs.dropWhile isBlank = []
  · simp [hcs, hc]
  · have hheld : (cs.dropWhile isBlank).rdropWhile isBlank ≠ [] :=
      fun h => hcs (dropWhile_of_trimBlanks_eq_nil h)
    have hfull : (cs.dropWhile isBlank).isEmpty = false := by simpa using hcs
    rw [hfull, if_neg Bool.false_ne_true, if_neg hheld, List.rdropWhile_concat_pos _ _ _ hc,
      List.rtakeWhile_concat_pos _ _ _ hc]
    exact ⟨rfl, rfl⟩

theorem trimBlanks_concat_solid (hc : isBlank c = false) :
    trimBlanks (cs ++ [c]) = trimBlanks cs ++ waitingBlanks cs ++ [c] ∧
      waitingBlanks (cs ++ [c]) = [] := by
  have hfront : (cs ++ [c]).dropWhile isBlank = cs.dropWhile isBlank ++ [c] := by
    rw [List.dropWhile_append]
    by_cases hcs : cs.dropWhile isBlank = [] <;> simp [hcs, hc]
  rw [trimBlanks_eq, trimBlanks_eq, waitingBlanks, waitingBlanks, hfront,
    List.rdropWhile_concat_neg _ _ _ (by simp [hc]), List.rtakeWhile_concat_neg _ _ _ (by simp [hc]),
    List.rdropWhile_append_rtakeWhile]
  exact ⟨rfl, rfl⟩

/-- **Outside quotes a plain text is held without its tabs and the blanks around it**; the
blanks behind it wait. -/
theorem run_plainText (hcs : ∀ c ∈ cs, isTextChar c = true) :
    (inPlain line key "").run cs =
      (inPlainAfter line key (String.ofList (trimBlanks (withoutTabs cs)))
        (String.ofList (waitingBlanks (withoutTabs cs))), []) := by
  induction cs using List.reverseRecOn with
  | nil => rfl
  | append_singleton cs c ih =>
      have hinit := ih fun d hd => hcs d (List.mem_append_left _ hd)
      obtain ⟨hplain, hcontrol⟩ := isTextChar_iff.mp (hcs c (by simp))
      refine run_append hinit ?_
      rw [withoutTabs_concat]
      by_cases htab : c = '\t'
      · subst htab
        rw [if_pos rfl, List.append_nil]
        exact run_plainTab _
      · rw [if_neg htab]
        by_cases hblank : isBlank c = true
        · obtain rfl : c = ' ' := by simpa [isBlank, htab] using hblank
          obtain ⟨hheld, hwaits⟩ := @trimBlanks_concat_blank ' ' (withoutTabs cs) rfl
          rw [run_plainBlank, hheld, hwaits]
          by_cases hnone : trimBlanks (withoutTabs cs) = []
          · simp [hnone]
          · simp [hnone, ListValue.push_ofList]
        · rw [Bool.not_eq_true] at hblank
          have hprintable : isControl c = false := by
            rw [← Bool.not_eq_true]
            exact fun h => htab (hcontrol h)
          have hsolid : isValueChar c = true := by
            simp_all [isValueChar]
          obtain ⟨hheld, hwaits⟩ := @trimBlanks_concat_solid c (withoutTabs cs) hblank
          rw [run_plainSolid hsolid, hheld, hwaits, ← String.ofList_append,
            ListValue.push_ofList, String.ofList_nil]

/-! ### Between quotes -/

/-- Between quotes a character of a plain text stands for itself, unless it is a tab. -/
theorem run_quotedPlain (hc : isTextChar c = true) (held : String) :
    (inQuotes line key held).run [c] =
      (inQuotes line key (held ++ String.ofList (withoutTabs [c])), []) := by
  obtain ⟨hplain, hcontrol⟩ := isTextChar_iff.mp hc
  by_cases htab : c = '\t'
  · subst htab
    have hnone : held ++ String.ofList (withoutTabs ['\t']) = held := String.append_empty
    rw [hnone]
    rfl
  · simp only [List.mem_cons, List.not_mem_nil, or_false, not_or] at hplain
    obtain ⟨hquote, hbackslash, -, hopen, hclose⟩ := hplain
    have hnewline : c ≠ '\n' := by
      rintro rfl
      exact absurd (hcontrol rfl) (by decide)
    have hone : withoutTabs [c] = [c] := withoutTabs_eq_self_iff.mpr (by simpa using Ne.symm htab)
    have hbracket : isBracket c = false := by simp [isBracket, hopen, hclose]
    have hchar := @run_quotedChar line key c hbackslash
      (fun h => absurd (hcontrol h) htab) held
    rw [written, if_neg hquote, if_neg hnewline, hbracket, if_neg Bool.false_ne_true] at hchar
    rw [hone, hchar]

/-- **Between quotes a plain text is held without its tabs**, blanks and all. -/
theorem run_quotedText (hcs : ∀ c ∈ cs, isTextChar c = true) :
    (inPlain line key "").run ('"' :: (cs ++ ['"'])) =
      (inPlain line key (String.ofList (withoutTabs cs)), []) := by
  have hopen : (inPlain line key "").run ['"'] = (inQuotes line key "", []) := rfl
  have hchar : ∀ c ∈ cs, ∀ held, (inQuotes line key held).run [c] =
      (inQuotes line key (held ++ String.ofList (withoutTabs [c])), []) :=
    fun c hc => run_quotedPlain (hcs c hc)
  have hkept : cs.flatMap (fun c => withoutTabs [c]) = withoutTabs cs :=
    List.filter_flatMap.symm.trans (congrArg withoutTabs (List.flatMap_singleton' cs))
  have hbody := run_flatMap hchar ""
  rw [List.flatMap_singleton', String.empty_append, hkept] at hbody
  exact run_append hopen (run_append hbody (run_closingQuote _))

/-- The line of a value that has been read, wherever it stands, whether a newline or the end of
the text ends it. -/
theorem readSettings_valueLine {written : List Char} {blanks : String}
    (hkey : ∀ c ∈ key.toList, isKeyChar c = true) {n : Nat}
    (hwritten : (inPlain (n + 1) key "").run written =
      (inPlainAfter (n + 1) key value blanks, []))
    {lineEnd : List Char} (hend : lineEnd = [] ∨ lineEnd = ['\n']) (policy : Policy) :
    readSettings policy (valueStart n key ++ written ++ lineEnd) =
      ⟨[.entry ⟨key, some value, n + 1⟩], true⟩ := by
  have hline := run_append (run_valueStart hkey n) hwritten
  obtain rfl | rfl := hend
  · rw [List.append_nil]
    exact @readSettings_of_entries _ _ [] hline rfl policy
  · have hnewline : (inPlainAfter (n + 1) key value blanks).run ['\n'] =
        (lineStart (n + 1 + 1) (n + 1), [.entry ⟨key, some value, n + 1⟩]) := rfl
    exact @readSettings_of_entries _ _ [⟨key, some value, n + 1⟩] (run_append hline hnewline) rfl
      policy

end Scanner

open Scanner in
/-- **A plain text survives being read if it has no tabs.**  Its line gives one entry and no
problem.  As it is, the text gives the key all but the blanks around it and the tabs inside;
between quotes, all but its tabs. -/
theorem readSettings_plainLine {key text : String} (hkey : ∀ c ∈ key.toList, isKeyChar c = true)
    (htext : ∀ c ∈ text.toList, isTextChar c = true) (n : Nat) {lineEnd : List Char}
    (hend : lineEnd = [] ∨ lineEnd = ['\n']) (policy : Policy) :
    let read := fun written : List Char =>
      readSettings policy (valueStart n key ++ written ++ lineEnd)
    let gives := fun value : List Char =>
      (⟨[.entry ⟨key, some (String.ofList value), n + 1⟩], true⟩ : Reading)
    let cs := text.toList
    let quoted := '"' :: (cs ++ ['"'])
    read cs = gives (withoutTabs (trimBlanks cs)) ∧
    read quoted = gives (withoutTabs cs) ∧
    (read cs = gives (trimBlanks cs) ↔ '\t' ∉ trimBlanks cs) ∧
    (read quoted = gives cs ↔ '\t' ∉ cs) := by
  intro read gives cs quoted
  have hplain : read cs = gives (withoutTabs (trimBlanks cs)) := by
    have hrun := @run_plainText (n + 1) key _ htext
    rw [← withoutTabs_trimBlanks] at hrun
    exact readSettings_valueLine hkey hrun hend policy
  have hquoted : read quoted = gives (withoutTabs cs) :=
    @readSettings_valueLine _ _ _ "" hkey _ (run_quotedText htext) _ hend policy
  have hsame (kept value : List Char) : gives kept = gives value ↔ kept = value := by
    simp [gives, String.ofList_inj]
  refine ⟨hplain, hquoted, ?_, ?_⟩
  · rw [hplain, hsame, withoutTabs_eq_self_iff]
  · rw [hquoted, hsame, withoutTabs_eq_self_iff]

/-- Blanks at both ends, tabs among them, and blanks inside, on the second line. -/
theorem readSettings_plainLine_blanks :
    let text := "\t My  Terminal, = \t"
    (∀ c ∈ text.toList, isTextChar c = true) ∧ '\t' ∉ trimBlanks text.toList ∧
      (readSettings .listen ("\ntitle = ".toList ++ text.toList)).entries =
        [⟨"title", some "My  Terminal, =", 2⟩] := by
  intro text
  have hkey : ∀ c ∈ "title".toList, Scanner.isKeyChar c = true :=
    List.all_eq_true.mp (by decide)
  have htext : ∀ c ∈ text.toList, isTextChar c = true := List.all_eq_true.mp (by decide +kernel)
  have htab : '\t' ∉ trimBlanks text.toList := by decide +kernel
  obtain ⟨-, -, hplain, -⟩ := readSettings_plainLine hkey htext 1 (Or.inl rfl) .listen
  have hwritten : "\ntitle = ".toList ++ text.toList =
      Scanner.valueStart 1 "title" ++ text.toList ++ [] := by
    decide +kernel
  have hline := congrArg Reading.entries (hplain.mpr htab)
  rw [hwritten]
  exact ⟨htext, htab, hline.trans (by decide +kernel)⟩

/-- A tab inside a text gets lost, though it is a blank, and between quotes any tab does. -/
theorem readSettings_plainLine_tab :
    let plain := readSettings .listen "k = a\tb\n".toList
    let quoted := readSettings .listen "k = \"a\tb\"\n".toList
    (∀ c ∈ "k".toList, Scanner.isKeyChar c = true) ∧
      (∀ c ∈ "a\tb".toList, isTextChar c = true) ∧
      trimBlanks "a\tb".toList = "a\tb".toList ∧
      plain.entries = [⟨"k", some "ab", 1⟩] ∧ quoted.entries = [⟨"k", some "ab", 1⟩] ∧
      plain.entries ≠ [⟨"k", some "a\tb", 1⟩] ∧ quoted.entries ≠ [⟨"k", some "a\tb", 1⟩] := by
  have hkey : ∀ c ∈ "k".toList, Scanner.isKeyChar c = true := List.all_eq_true.mp (by decide)
  have htext : ∀ c ∈ "a\tb".toList, isTextChar c = true :=
    List.all_eq_true.mp (by decide +kernel)
  exact ⟨hkey, htext, by decide +kernel⟩

end TerminalConfig
