/-
What a key reads of a value.

An entry is applied to settings, but what it makes of its value is not a matter of the
settings.  `Key.accepted?` says what it makes of it: the part that the key stands for is
replaced, or the entry is refused and nothing is.  So an entry does two things, and both can
be told from the entry alone: the part of its key becomes what was read, or stays, and there
is a complaint if it was refused.
-/
import TerminalConfig.Proofs.Settings.Accepting

namespace TerminalConfig

open Text

namespace Key

/-! ### Values -/

/-- What a setting with a single value reads of it. -/
def readSingle : Key → String → Except Misfit Held
  | .term, text => .ok (.text (some text))
  | .title, text => .ok (.text (some text))
  | .titleFormat, text => .ok (.text (some text))
  | .locale, text => .ok (.text (some text))
  | .rows, text => (readNumber 1 text).map .number
  | .columns, text => (readNumber 1 text).map .number
  | .fontSize, text => (readNumber 1 text).map .number
  | .dpi, text => (readNumber 1 text).map .number
  | .scrollLines, text => (readClamped 255 text).map .number
  | .colorscheme, text => (readScheme text).map .number
  | .background, text => (readRgba text).map fun color => .rgba (some color)
  | .highlightBackground, text => (readRgba text).map fun color => .rgba (some color)
  | .foreground, text => (readRgb text).map fun color => .rgb (some color)
  | .highlightForeground, text => (readRgb text).map fun color => .rgb (some color)
  | .dimForeground, text => (readRgb text).map fun color => .rgb (some color)
  | .color _, text => (readRgb text).map fun color => .rgb (some color)
  | _, _ => .ok .nothing

/-- A misfit of the key, with the text that it is about. -/
def refuse (key : Key) (shown : String) (misfit : Misfit) : InvalidValue :=
  ⟨key.name, some shown, misfit⟩

/-- What a setting that takes a value reads of it. -/
def read (key : Key) (value : String) : Except InvalidValue Held :=
  let expansion := ListValue.expand value
  if key = .configFile then .ok .nothing
  else if key = .font then
    ((readFonts expansion.elements).map .fonts).mapError (key.refuse value)
  else if expansion.others ≠ [] then .error (key.refuse value .list)
  else (key.readSingle expansion.first).mapError (key.refuse expansion.first)

/-- What a flag stands for once it is set. -/
def whenSet : Key → Held
  | .skipConfig => .nothing
  | _ => .flag true

/-- What an entry makes of the part of its key, unless it leaves it alone. -/
def accepted? (key : Key) (value : Option String) : Option Held :=
  if key.isFlag then
    if readFlag value = some true then some key.whenSet else none
  else value.bind fun text => (key.read text).toOption

end Key

/-- What is said of a value that was read. -/
def refusal : Except InvalidValue Held → List Complaint
  | .ok _ => []
  | .error invalid => [.invalidValue invalid]

namespace Settings

/-! ### Entries -/

variable {s : Settings} {key : Key}

/-- A single value is read alike whatever the settings, and its part becomes what was read. -/
theorem setScalar_read (hkey : key.IsSingle) (s : Settings) (text : String) :
    (s.setScalar key text).map (·.held key) = key.readSingle text := by
  have hmap {α : Type} {attempt : Except Misfit α} {set : α → Settings} {part : α → Held}
      (h : ∀ a, (set a).held key = part a) :
      (attempt.map set).map (·.held key) = attempt.map part := by
    cases attempt with
    | error misfit => rfl
    | ok a => exact congrArg Except.ok (h a)
  cases key <;> unfold setScalar Key.readSingle
  case color index =>
    refine hmap fun color => ?_
    exact congrArg Held.rgb
      ((Overrides.find?_insert s.overrides index.val index.val color).trans (if_pos rfl))
  case term | title | titleFormat | locale => rfl
  case configFile => exact absurd rfl hkey.notFile
  case font => exact absurd rfl hkey.notFont
  case skipConfig | xorgOnly | noDynamicTitle | highlightChangesForeground | noFlash =>
    exact absurd hkey.notFlag (by decide)
  all_goals exact hmap fun _ => rfl

/-- What came of an entry is what was read of its value. -/
structure Reads (s : Settings) (key : Key) (read : Except InvalidValue Held)
    (after : Settings × List Complaint) : Prop where
  held : after.1.held key = read.toOption.getD (s.held key)
  /-- Besides the spelling of a list nothing is complained of but a refusal. -/
  complaints : ∃ problems : List ListProblem,
    after.2 = problems.map .listProblem ++ refusal read

theorem reads_orComplaint (s : Settings) {shown : String} {attempt : Except Misfit Settings}
    {read : Except Misfit Held} (h : attempt.map (·.held key) = read) :
    s.Reads key (read.mapError (key.refuse shown)) (s.orComplaint key shown attempt) := by
  subst h
  cases attempt with
  | ok t => exact ⟨rfl, [], rfl⟩
  | error misfit => exact ⟨rfl, [], rfl⟩

theorem Reads.afterProblems {read : Except InvalidValue Held} {after : Settings × List Complaint}
    (h : s.Reads key read after) (problems : List ListProblem) :
    s.Reads key read (after.1, problems.map .listProblem ++ after.2) := by
  obtain ⟨more, hmore⟩ := h.complaints
  exact ⟨h.held, problems ++ more, by rw [hmore, List.map_append, List.append_assoc]⟩

/-- A value is read alike whatever the settings. -/
theorem reads_setValue (hflag : key.isFlag = false) (s : Settings) (value : String) :
    s.Reads key (key.read value) (s.setValue key value) := by
  unfold setValue Key.read
  by_cases hfile : key = .configFile
  · subst hfile
    exact ⟨rfl, [], rfl⟩
  rw [if_neg hfile, if_neg hfile]
  dsimp only
  by_cases hfont : key = .font
  · subst hfont
    rw [if_pos rfl, if_pos rfl]
    refine (reads_orComplaint s ?_).afterProblems _
    cases readFonts (ListValue.expand value).elements <;> rfl
  rw [if_neg hfont, if_neg hfont]
  split
  · exact Reads.afterProblems ⟨rfl, [], rfl⟩ _
  · exact (reads_orComplaint s (setScalar_read ⟨hflag, hfile, hfont⟩ s _)).afterProblems _

theorem enter_value (hflag : key.isFlag = false) (s : Settings) (text : String) :
    s.enter key.name (some text) = s.setValue key text := by
  rw [enter, Key.named?_name]
  simp [hflag]

theorem setFlag_held (hflag : key.isFlag = true) (s : Settings) :
    (s.setFlag key).held key = key.whenSet := by
  cases key <;> first | rfl | exact absurd hflag Bool.false_ne_true

/-- **An entry gives its key what is read of it, or leaves it alone.** -/
theorem enter_held (s : Settings) (key : Key) (value : Option String) :
    (s.enter key.name value).1.held key = (key.accepted? value).getD (s.held key) := by
  unfold Key.accepted?
  by_cases hflag : key.isFlag = true
  · rw [enter, Key.named?_name, if_pos hflag]
    simp only [hflag, if_true]
    split
    · rename_i hset
      rw [if_pos hset]
      exact setFlag_held hflag s
    · rename_i hunset
      rw [hunset]
      rfl
    · rename_i hbad
      rw [hbad]
      rfl
  · rw [if_neg hflag]
    rw [Bool.not_eq_true] at hflag
    cases value with
    | none =>
        rw [enter, Key.named?_name]
        simp [hflag]
    | some text =>
        rw [enter_value hflag]
        exact (reads_setValue hflag s text).held

/-- **Whether a value is accepted is not a matter of the settings.**  One that is accepted is
complained of only for the spelling of its list. -/
theorem isSome_accepted?_iff (hflag : key.isFlag = false) (s : Settings) (value : Option String) :
    (key.accepted? value).isSome = true ↔
      ∀ complaint ∈ (s.enter key.name value).2, ∃ problem, complaint = .listProblem problem := by
  have hread : key.accepted? value = value.bind fun text => (key.read text).toOption :=
    if_neg (by rw [hflag]; decide)
  rw [hread]
  cases value with
  | none =>
      have hmissing : (s.enter key.name none).2 = [.missingValue key.name] := by
        rw [enter, Key.named?_name]
        simp [hflag]
      rw [hmissing]
      simp
  | some text =>
      obtain ⟨problems, hcomplaints⟩ := (reads_setValue hflag s text).complaints
      rw [enter_value hflag, hcomplaints, Option.bind_some]
      cases key.read text with
      | ok held => simp [refusal, Except.toOption]
      | error invalid =>
          simp only [Except.toOption, Option.isSome_none, Bool.false_eq_true, false_iff, refusal]
          intro hspelling
          obtain ⟨problem, hproblem⟩ := hspelling (.invalidValue invalid) (by simp)
          cases hproblem

end Settings
end TerminalConfig
