/-
An entry is applied as a whole or not at all.

Whatever keeps an entry from being applied is complained of, and then the settings are as
they were: what is read of a value is read before anything is set.  An oddly spelled list is
complained of as well, but is no reason to refuse the entry.  So the complaints tell what
became of it.  If one of them refuses the entry, nothing has changed; if none does, the part
of its key holds what the entry says, and all else is as it was.

What an entry is refused for can be told from its key and its value, and `objections` says
so.  What has no effect need not be objected to: the two keys that choose the settings text
stand for no part, and nothing unsets a flag.
-/
import TerminalConfig.Proofs.Settings.Order

namespace TerminalConfig

open Text

/-- The complaint is that an entry is not applied. -/
def Complaint.refuses : Complaint → Bool
  | .unknownSetting _ => true
  | .badFlag _ _ => true
  | .missingValue _ => true
  | .invalidValue _ => true
  | .syntaxError _ => false
  | .listProblem _ => false
  | .remark _ => false

theorem readFlag_eq_false_iff {value : Option String} :
    readFlag value = some false ↔ ∃ text, value = some text ∧ lowered (trimmed text) = "false" := by
  cases value with
  | none => simp [readFlag]
  | some text =>
      unfold readFlag
      dsimp only
      split
      · rename_i htrue
        simp [htrue]
      · rename_i hfalse
        simp [hfalse]
      · rename_i hne
        simpa using hne

namespace Key

variable {key : Key} {value : Option String}

/-- The key makes nothing of the value.  It stands for no part of the settings, or it is a
flag and is not to be set. -/
def Ignores (key : Key) (value : Option String) : Prop :=
  key = .configFile ∨ key = .skipConfig ∨
    key.isFlag = true ∧ ∃ text, value = some text ∧ lowered (trimmed text) = "false"

/-- The value is read as what the part of the key is to be. -/
inductive Says (key : Key) : Option String → Held → Prop
  | flag {value : Option String} (hflag : key.isFlag = true) (hset : readFlag value = some true) :
      Says key value (.flag true)
  | value {text : String} {held : Held} (hflag : key.isFlag = false)
      (hread : key.read text = .ok held) : Says key (some text) held

/-- What an entry with the key is refused for. -/
def objections (key : Key) (value : Option String) : List Complaint :=
  if key.isFlag then
    match readFlag value with
    | some _ => []
    | none => [.badFlag key.name (value.getD "")]
  else
    match value with
    | none => [.missingValue key.name]
    | some text => refusal (key.read text)

/-! ### What an entry is refused for -/

theorem refuses_of_mem_objections {complaint : Complaint} (h : complaint ∈ key.objections value) :
    complaint.refuses = true := by
  unfold objections at h
  split at h
  · cases hread : readFlag value with
    | some set => simp [hread] at h
    | none =>
        rw [hread, List.mem_singleton] at h
        rw [h]
        rfl
  · cases value with
    | none =>
        rw [List.mem_singleton.mp h]
        rfl
    | some text =>
        dsimp only at h
        cases hread : key.read text with
        | ok held => simp [hread, refusal] at h
        | error invalid =>
            rw [hread, refusal, List.mem_singleton] at h
            rw [h]
            rfl

/-- What is refused is not accepted. -/
theorem accepted?_of_objections (h : key.objections value ≠ []) : key.accepted? value = none := by
  unfold objections at h
  unfold accepted?
  split at h
  · rename_i hflag
    rw [if_pos hflag]
    refine if_neg fun hset => h ?_
    rw [hset]
  · rename_i hflag
    rw [if_neg hflag]
    cases value with
    | none => rfl
    | some text =>
        rw [Option.bind_some]
        cases hread : key.read text with
        | ok held => exact absurd (by simp [hread, refusal]) h
        | error invalid => rfl

/-- **What is neither refused nor ignored is accepted** as what it says. -/
theorem accepted?_of_no_objections (h : key.objections value = []) (hignores : ¬key.Ignores value) :
    ∃ held, key.accepted? value = some held ∧ key.Says value held := by
  have hskip : key ≠ .skipConfig := fun hskip => hignores (.inr (.inl hskip))
  unfold objections at h
  split at h
  · rename_i hflag
    have hset : readFlag value = some true := by
      cases hread : readFlag value with
      | none => simp [hread] at h
      | some set =>
          cases set with
          | true => rfl
          | false => exact absurd (.inr (.inr ⟨hflag, readFlag_eq_false_iff.mp hread⟩)) hignores
    exact ⟨.flag true, accepted?_of_readFlag hflag hskip hset, .flag hflag hset⟩
  · rename_i hflag
    cases value with
    | none => cases h
    | some text =>
        dsimp only at h
        cases hread : key.read text with
        | error invalid => simp [hread, refusal] at h
        | ok held =>
            refine ⟨held, ?_, .value (Bool.not_eq_true _ ▸ hflag) hread⟩
            rw [accepted?, if_neg hflag, Option.bind_some, hread]
            rfl

end Key

/-! ### What an entry does -/

namespace Settings

variable {key : Key} {value : Option String}

/-- Besides the spelling of a list, only what refuses the entry is complained of. -/
theorem enter_complaints (s : Settings) (key : Key) (value : Option String) :
    ∃ problems : List ListProblem,
      (s.enter key.name value).2 = problems.map .listProblem ++ key.objections value := by
  unfold Key.objections
  by_cases hflag : key.isFlag = true
  · refine ⟨[], ?_⟩
    rw [enter, Key.named?_name, if_pos hflag]
    simp only [hflag, if_true]
    cases readFlag value with
    | none => rfl
    | some set => cases set <;> rfl
  · rw [if_neg hflag]
    rw [Bool.not_eq_true] at hflag
    cases value with
    | none =>
        refine ⟨[], ?_⟩
        rw [enter, Key.named?_name]
        simp [hflag]
    | some text =>
        rw [enter_value hflag]
        exact (reads_setValue hflag s text).complaints

variable {s : Settings} {complaint : Complaint}

theorem of_mem_complaints (h : complaint ∈ (s.enter key.name value).2) :
    complaint ∈ key.objections value ∨ ∃ problem, complaint = .listProblem problem := by
  obtain ⟨problems, hcomplaints⟩ := s.enter_complaints key value
  rw [hcomplaints] at h
  obtain hspelling | hobjection := List.mem_append.mp h
  · obtain ⟨problem, -, rfl⟩ := List.mem_map.mp hspelling
    exact .inr ⟨problem, rfl⟩
  · exact .inl hobjection

/-- An entry that is refused has no effect. -/
theorem enter_of_refused (h : complaint ∈ (s.enter key.name value).2)
    (hrefuses : complaint.refuses = true) : (s.enter key.name value).1 = s := by
  obtain hobjection | ⟨problem, rfl⟩ := of_mem_complaints h
  · have hnone := Key.accepted?_of_objections (List.ne_nil_of_mem hobjection)
    have hchanged : ChangedAt key s (s.enter key.name value).1 := enter_changedAt key.named?_name
    refine ext_held (fun other => ?_) hchanged.configPath hchanged.offPalette
    by_cases hother : other = key
    · rw [hother, enter_held, hnone]
      rfl
    · exact hchanged.held other hother
  · cases hrefuses

/-- An entry that is neither refused nor ignored gives its key what it says. -/
theorem says_held_enter (h : ∀ complaint ∈ (s.enter key.name value).2, complaint.refuses = false)
    (hignores : ¬key.Ignores value) : key.Says value ((s.enter key.name value).1.held key) := by
  obtain ⟨problems, hcomplaints⟩ := s.enter_complaints key value
  have hobjections : key.objections value = [] := by
    refine List.eq_nil_iff_forall_not_mem.mpr fun complaint hcomplaint => ?_
    have hsaid : complaint ∈ (s.enter key.name value).2 := by
      rw [hcomplaints]
      exact List.mem_append_right _ hcomplaint
    have hrefuses := Key.refuses_of_mem_objections hcomplaint
    rw [h complaint hsaid] at hrefuses
    cases hrefuses
  obtain ⟨held, haccepted, hsays⟩ := Key.accepted?_of_no_objections hobjections hignores
  rw [enter_held, haccepted]
  exact hsays

end Settings

namespace Loader

/-- **An entry is applied as a whole or not at all, and not dropped in silence.**  All that is
said of it is put behind what was said before, with its line.  If it is complained that the
setting is not known, that a value is missing, or that the value is not one for the setting, the
settings are what they were.  Otherwise the entry is one of a key and no other part of the
settings has changed; and unless the key ignores the value, its part is what the value was read
as, whatever is odd about the spelling of the list. -/
theorem apply_atomic (l : Loader) (name : String) (value : Option String) (line : Int) :
    ∃ complaints : List Complaint,
      (l.apply name value line).diagnostics = l.diagnostics ++ complaints.map (⟨line, ·⟩) ∧
      (∀ complaint ∈ complaints,
        complaint.refuses = true ∨ ∃ problem, complaint = .listProblem problem) ∧
      ((∃ complaint ∈ complaints, complaint.refuses = true) →
        (l.apply name value line).settings = l.settings) ∧
      ((∀ complaint ∈ complaints, complaint.refuses = false) →
        ∃ key : Key, key.name = name ∧
          l.settings.ChangedAt key (l.apply name value line).settings ∧
          (¬key.Ignores value →
            key.Says value ((l.apply name value line).settings.held key))) := by
  refine ⟨(l.settings.enter name value).2, rfl, ?_⟩
  rw [settings_apply]
  cases hnamed : Key.named? name with
  | none =>
      have hunknown : l.settings.enter name value = (l.settings, [.unknownSetting name]) := by
        rw [Settings.enter, hnamed]
      rw [hunknown]
      refine ⟨fun complaint hcomplaint => .inl ?_, fun _ => rfl, fun hnone => ?_⟩
      · rw [List.mem_singleton.mp hcomplaint]
        rfl
      · cases hnone _ (List.mem_singleton_self _)
  | some key =>
      obtain rfl := Key.name_of_named? hnamed
      refine ⟨fun complaint hcomplaint => ?_, ?_, fun hnone => ?_⟩
      · exact (Settings.of_mem_complaints hcomplaint).imp_left Key.refuses_of_mem_objections
      · rintro ⟨complaint, hcomplaint, hrefuses⟩
        exact Settings.enter_of_refused hcomplaint hrefuses
      · exact ⟨key, rfl, Settings.enter_changedAt hnamed, Settings.says_held_enter hnone⟩

/-- A list of one number is complained of and read all the same, and one with nothing in it
is complained of twice and changes nothing. -/
theorem apply_atomic_oddLists :
    let first := ({} : Loader).apply "rows" (some "[5]") 3
    let second := first.apply "rows" (some "[") 4
    first.diagnostics = [⟨3, .listProblem (.singleElement "[5]" "5")⟩] ∧
      first.settings.held .rows = .number 5 ∧
      second.diagnostics = first.diagnostics ++ [⟨4, .listProblem (.openList "[")⟩,
        ⟨4, .invalidValue ⟨"rows", some "", .notNumber⟩⟩] ∧
      second.settings = first.settings := by
  intro first second
  have hfirst : first.diagnostics = [⟨3, .listProblem (.singleElement "[5]" "5")⟩] := by
    decide +kernel
  have hsecond : second.diagnostics = first.diagnostics ++ [⟨4, .listProblem (.openList "[")⟩,
      ⟨4, .invalidValue ⟨"rows", some "", .notNumber⟩⟩] := by
    decide +kernel
  refine ⟨hfirst, ?_, hsecond, ?_⟩
  · obtain ⟨complaints, hsaid, -, -, happlied⟩ := apply_atomic {} "rows" (some "[5]") 3
    obtain ⟨complaint, rfl, hcomplaint⟩ := List.map_eq_singleton_iff.mp (hsaid.symm.trans hfirst)
    obtain rfl := (Diagnostic.mk.inj hcomplaint).2
    obtain ⟨key, hname, -, hsays⟩ := happlied (by simp [Complaint.refuses])
    obtain rfl : key = .rows := by
      have hnamed := key.named?_name
      rw [hname] at hnamed
      exact Option.some.inj (hnamed.symm.trans (by decide +kernel))
    have hread : Key.rows.read "[5]" = .ok (.number 5) := by rfl
    cases hsays (by simp [Key.Ignores, Key.isFlag]) with
    | value hflag hheld => exact (Except.ok.inj (hread.symm.trans hheld)).symm
  · obtain ⟨complaints, hsaid, -, hrefused, -⟩ := apply_atomic first "rows" (some "[") 4
    have hcomplaints := List.append_cancel_left (hsaid.symm.trans hsecond)
    refine hrefused ⟨.invalidValue ⟨"rows", some "", .notNumber⟩, ?_, rfl⟩
    have hmem : (⟨4, .invalidValue ⟨"rows", some "", .notNumber⟩⟩ : Diagnostic) ∈
        complaints.map (⟨4, ·⟩) := by
      rw [hcomplaints]
      exact List.mem_cons_of_mem _ (List.mem_singleton_self _)
    obtain ⟨complaint, hcomplaint, heq⟩ := List.mem_map.mp hmem
    rw [← (Diagnostic.mk.inj heq).2]
    exact hcomplaint

end Loader

end TerminalConfig
