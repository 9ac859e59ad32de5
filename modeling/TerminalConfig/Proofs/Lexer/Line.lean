/-
Single lines of a settings text, as they are written.

A line is a piece of text that takes the machine from the start of a line to the start of
a line.  `Sets` says of a line that it does so wherever it stands, and shows one entry and
nothing else, so lines can be put together in any order.

What a line leaves behind are its number and the number of the latest equals sign, and
neither is seen by the next line.
-/
import TerminalConfig.Proofs.Lexer.Run
import TerminalConfig.Proofs.Text.Escape

namespace TerminalConfig

open Text

namespace Scanner

/-! ### Where the machine stands -/

/-- At the start of a line; the latest equals sign was on line `keyLine`. -/
def lineStart (line keyLine : Nat) : Scanner :=
  { line := line, keyLine := keyLine }

/-- After the key of a line. -/
def keyRead (line keyLine : Nat) (key : String) : Scanner :=
  { line := line, keyLine := keyLine, key := key }

/-- In the value of a line, outside quotes. -/
def inPlain (line : Nat) (key value : String) : Scanner :=
  { line := line, keyLine := line, key := key, value := value, inValue := true }

/-- In the value of a line, inside quotes. -/
def inQuotes (line : Nat) (key value : String) : Scanner :=
  { line := line, keyLine := line, key := key, value := value, inValue := true,
    inString := true }

/-- The text is a line that gives the key a value as described and does nothing else. -/
def Sets (cs : List Char) (key : String) (described : Option String → Prop) : Prop :=
  ∀ line keyLine, ∃ line' keyLine' value,
    (lineStart line keyLine).run cs = (lineStart line' keyLine', [.entry ⟨key, value, line⟩]) ∧
      described value

/-- What is said of the value may be said in other words. -/
theorem Sets.imp {cs : List Char} {key : String} {described described' : Option String → Prop}
    (h : Sets cs key described) (himp : ∀ value, described value → described' value) :
    Sets cs key described' := by
  intro line keyLine
  obtain ⟨line', keyLine', value, hrun, hvalue⟩ := h line keyLine
  exact ⟨line', keyLine', value, hrun, himp value hvalue⟩

variable {line keyLine : Nat} {key value : String}

/-- **Characters that are each added to what the machine holds are all added to it**,
each in the form in which it is kept. -/
theorem run_flatMap {holding : String → Scanner} {written kept : Char → List Char}
    {cs : List Char}
    (h : ∀ c ∈ cs, ∀ held,
      (holding held).run (written c) = (holding (held ++ String.ofList (kept c)), []))
    (held : String) :
    (holding held).run (cs.flatMap written) =
      (holding (held ++ String.ofList (cs.flatMap kept)), []) := by
  induction cs generalizing held with
  | nil => rw [List.flatMap_nil, List.flatMap_nil, String.ofList_nil, String.append_empty, run_nil]
  | cons c cs ih =>
      obtain ⟨hc, hcs⟩ := List.forall_mem_cons.mp h
      have hrun := run_append (hc held) (ih hcs (held ++ String.ofList (kept c)))
      rw [String.append_assoc, ← String.ofList_append] at hrun
      exact hrun

/-- Empty lines. -/
theorem run_newlines (line keyLine n : Nat) :
    (lineStart line keyLine).run (List.replicate n '\n') = (lineStart (line + n) keyLine, []) := by
  induction n generalizing line with
  | zero => rfl
  | succ n ih =>
      have hfirst : (lineStart line keyLine).advance '\n' =
          (lineStart (line + 1) keyLine, []) := rfl
      have hrun := run_cons hfirst (ih (line + 1))
      rw [Nat.add_right_comm] at hrun
      exact hrun

/-! ### Keys -/

/-- A character that may stand in a key. -/
def isKeyChar (c : Char) : Bool :=
  c != '=' && c != '#' && !isBlank c && !isControl c

theorem append_singleton (held : String) (c : Char) :
    held ++ String.ofList [c] = held.push c := by
  rw [String.push_eq_append, String.singleton_eq_ofList]

theorem countLine_of_ne {s : Scanner} {c : Char} (hc : c ≠ '\n') : s.countLine c = s := by
  simp [countLine, hc]

/-- A character that is taken, keeps its line and shows nothing. -/
theorem run_of_taken {s next : Scanner} {c : Char} (hstep : s.step c = .taken next none)
    (hc : c ≠ '\n') : s.run [c] = (next, []) := by
  rw [run_singleton, advance_of_taken hstep, countLine_of_ne hc]
  rfl

theorem run_keyChar {c : Char} (hc : isKeyChar c = true) (held : String) :
    (keyRead line keyLine held).run [c] =
      (keyRead line keyLine (held ++ String.ofList [c]), []) := by
  simp only [isKeyChar, Bool.and_eq_true, bne_iff_ne, Bool.not_eq_true'] at hc
  obtain ⟨⟨⟨hequals, hcomment⟩, hblank⟩, hcontrol⟩ := hc
  have hnewline : c ≠ '\n' := by
    rintro rfl
    exact absurd hcontrol (by decide)
  rw [append_singleton]
  refine run_of_taken ?_ hnewline
  simp [step, stepPlace, stepKey, keyRead, hequals, hcomment, hnewline, hcontrol, hblank]

theorem run_key (hkey : ∀ c ∈ key.toList, isKeyChar c = true) :
    (lineStart line keyLine).run key.toList = (keyRead line keyLine key, []) := by
  have hchar : ∀ c ∈ key.toList, ∀ held, (keyRead line keyLine held).run [c] =
      (keyRead line keyLine (held ++ String.ofList [c]), []) :=
    fun c hc => run_keyChar (hkey c hc)
  have hchars := run_flatMap hchar ""
  rw [List.flatMap_singleton', String.ofList_toList, String.empty_append] at hchars
  exact hchars

/-- A key and the equals sign after it. -/
theorem run_opening (hkey : ∀ c ∈ key.toList, isKeyChar c = true) :
    (lineStart line keyLine).run (key.toList ++ [' ', '=', ' ']) =
      (inPlain line key "", []) := by
  have hequals : (keyRead line keyLine key).run [' ', '=', ' '] = (inPlain line key "", []) := by
    rfl
  exact run_append (run_key hkey) hequals

/-- Empty lines, and a line up to its value. -/
def valueStart (n : Nat) (key : String) : List Char :=
  List.replicate n '\n' ++ (key.toList ++ [' ', '=', ' '])

theorem run_valueStart (hkey : ∀ c ∈ key.toList, isKeyChar c = true) (n : Nat) :
    ({} : Scanner).run (valueStart n key) = (inPlain (n + 1) key "", []) := by
  have hnewlines := run_newlines 1 0 n
  rw [Nat.add_comm 1 n] at hnewlines
  exact run_append hnewlines (run_opening hkey)

/-- A key alone on its line. -/
theorem sets_flag (hkey : ∀ c ∈ key.toList, isKeyChar c = true) (hne : key ≠ "") :
    Sets (key.toList ++ ['\n']) key (· = none) := by
  intro line keyLine
  have hnewline : (keyRead line keyLine key).run ['\n'] =
      (lineStart (line + 1) keyLine, [.entry ⟨key, none, line⟩]) := by
    have hstep : (keyRead line keyLine key).step '\n' =
        .taken (lineStart line keyLine) (some ⟨key, none, line⟩) := by
      simp [step, stepPlace, stepKey, keyRead, flagEntry, lineStart, hne]
    rw [run_singleton, advance_of_taken hstep]
    rfl
  exact ⟨line + 1, keyLine, none, run_append (run_key hkey) hnewline, rfl⟩

/-! ### Values -/

/-- A newline after the value. -/
theorem run_valueEnd :
    (inPlain line key value).run ['\n'] =
      (lineStart (line + 1) line, [.entry ⟨key, some value, line⟩]) := by
  rfl

/-- A line with a value is read as the value is. -/
theorem sets_value {cs : List Char} (hkey : ∀ c ∈ key.toList, isKeyChar c = true)
    (hcs : ∀ line, (inPlain line key "").run cs = (inPlain line key value, [])) :
    Sets (key.toList ++ [' ', '=', ' '] ++ cs ++ ['\n']) key (· = some value) := by
  intro line keyLine
  exact ⟨line + 1, line, some value,
    run_append (run_append (run_opening hkey) (hcs line)) run_valueEnd, rfl⟩

/-- A character of a value that stands for itself. -/
def isValueChar (c : Char) : Bool :=
  !isBlank c && !isControl c && c ∉ ['"', '\\', '[', ']', '#']

theorem isValueChar_of_isDigit {c : Char} (h : c.isDigit = true) : isValueChar c = true := by
  rw [Char.isDigit_iff_toNat] at h
  have hlow : 0x30 ≤ c.toNat := h.1
  have hhigh : c.toNat ≤ 0x39 := h.2
  have hne : ∀ d : Char, d.toNat < 0x30 ∨ 0x39 < d.toNat → c ≠ d := by
    rintro d hd rfl
    omega
  have hcontrol : isControl c = false := by
    have hsmall : ¬c.toNat < 0x20 := by omega
    have hdelete : c.toNat ≠ 0x7F := by omega
    simp [isControl, hsmall, hdelete]
  simp [isValueChar, isBlank, hcontrol, hne ' ', hne '\t', hne '"', hne '\\', hne '[', hne ']',
    hne '#']

theorem run_valueChar {c : Char} (hc : isValueChar c = true) (held : String) :
    (inPlain line key held).run [c] = (inPlain line key (held ++ String.ofList [c]), []) := by
  simp only [isValueChar, Bool.and_eq_true, Bool.not_eq_true', decide_eq_true_eq, List.mem_cons,
    List.not_mem_nil, or_false, not_or] at hc
  obtain ⟨⟨hblank, hcontrol⟩, hquote, hbackslash, hopen, hclose, hcomment⟩ := hc
  have hnewline : c ≠ '\n' := by
    rintro rfl
    exact absurd hcontrol (by decide)
  rw [append_singleton]
  refine run_of_taken ?_ hnewline
  simp [step, stepPlace, stepValue, plain, push, inPlain, hblank, hcontrol, hquote, hbackslash,
    hopen, hclose, hcomment, hnewline]

/-- A value without quotes. -/
theorem run_plain {cs : List Char} (hcs : ∀ c ∈ cs, isValueChar c = true) :
    (inPlain line key "").run cs = (inPlain line key (String.ofList cs), []) := by
  have hchar : ∀ c ∈ cs, ∀ held, (inPlain line key held).run [c] =
      (inPlain line key (held ++ String.ofList [c]), []) :=
    fun c hc => run_valueChar (hcs c hc)
  have hchars := run_flatMap hchar ""
  rw [List.flatMap_singleton', String.empty_append] at hchars
  exact hchars

/-! ### Quoted values -/

/-- A character between quotes as it is written. -/
def written (c : Char) : List Char :=
  if c = '"' then ['\\', '"'] else if c = '\n' then ['\\', 'n'] else [c]

/-- A text between quotes. -/
def quotation (cs : List Char) : List Char :=
  '"' :: (cs.flatMap written ++ ['"'])

/-- A character that gets a backslash when it is quoted. -/
def isBracket (c : Char) : Bool :=
  c == '[' || c == ']'

theorem plain_inQuotes {c : Char} (hcontrol : isControl c = false) (held : String) :
    (inQuotes line key held).plain c =
      inQuotes line key (held ++ String.ofList (if isBracket c then ['\\', c] else [c])) := by
  by_cases hbracket : isBracket c = true
  · have hpair : held ++ String.ofList ['\\', c] = (held.push '\\').push c := by
      rw [← String.toList_inj]
      simp
    rw [if_pos hbracket, hpair]
    unfold isBracket at hbracket
    simp [plain, push, inQuotes, hcontrol, hbracket]
  · rw [if_neg hbracket, append_singleton]
    unfold isBracket at hbracket
    simp [plain, push, inQuotes, hcontrol, hbracket]

/-- A backslash and a character that may stand after it. -/
theorem run_escaped {c d : Char} {held : String} (hc : c ≠ '\n')
    (hstep : ({ inQuotes line key held with escaped := true } : Scanner).step c =
      .taken (inQuotes line key (held.push d)) none) :
    (inQuotes line key held).run ['\\', c] = (inQuotes line key (held.push d), []) := by
  have hbackslash : (inQuotes line key held).run ['\\'] =
      ({ inQuotes line key held with escaped := true }, []) := rfl
  exact run_append hbackslash (run_of_taken hstep hc)

theorem run_quotedChar {c : Char} (hbackslash : c ≠ '\\')
    (hcontrol : isControl c = true → c = '\n') (held : String) :
    (inQuotes line key held).run (written c) = (inQuotes line key
      (held ++ String.ofList (if isBracket c then ['\\', c] else [c])), []) := by
  by_cases hquote : c = '"'
  · subst hquote
    have hkept : (if isBracket '"' then ['\\', '"'] else ['"']) = ['"'] := rfl
    rw [hkept, append_singleton]
    exact run_escaped (by decide)
      (by simp [step, stepPlace, stepValue, stepEscaped, inQuotes, push])
  · by_cases hnewline : c = '\n'
    · subst hnewline
      have hkept : (if isBracket '\n' then ['\\', '\n'] else ['\n']) = ['\n'] := rfl
      rw [hkept, append_singleton]
      exact run_escaped (by decide)
        (by simp [step, stepPlace, stepValue, stepEscaped, inQuotes, push])
    · have hprintable : isControl c = false := by
        rw [← Bool.not_eq_true]
        exact fun h => hnewline (hcontrol h)
      rw [written, if_neg hquote, if_neg hnewline, ← plain_inQuotes hprintable]
      refine run_of_taken ?_ hnewline
      simp [step, stepPlace, stepValue, inQuotes, hquote, hbackslash, hnewline]

theorem run_closingQuote (held : String) :
    (inQuotes line key held).run ['"'] = (inPlain line key held, []) := by
  simp [run_singleton, advance, step, stepPlace, stepValue, stepQuote, toggleQuote, inQuotes,
    inPlain, countLine]

/-- **A quoted value is kept as it was meant**, but for its brackets. -/
theorem run_quotation {cs : List Char}
    (hcs : ∀ c ∈ cs, c ≠ '\\' ∧ (isControl c = true → c = '\n')) :
    (inPlain line key "").run (quotation cs) =
      (inPlain line key (String.ofList (escape isBracket cs)), []) := by
  have hopen : (inPlain line key "").run ['"'] = (inQuotes line key "", []) := rfl
  have hchar : ∀ c ∈ cs, ∀ held, (inQuotes line key held).run (written c) = (inQuotes line key
      (held ++ String.ofList (if isBracket c then ['\\', c] else [c])), []) :=
    fun c hc => run_quotedChar (hcs c hc).1 (hcs c hc).2
  have hbody := run_flatMap hchar ""
  rw [String.empty_append] at hbody
  exact run_append hopen (run_append hbody (run_closingQuote _))

end Scanner

end TerminalConfig
