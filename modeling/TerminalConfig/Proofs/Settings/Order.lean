/-
The order of entries.

An entry changes no part of the settings but that of its key, and what it makes of that part
can be told from the entry alone.  So of all that is applied, only the entries with a key
matter to its part, in their order: what was accepted last is what the part ends as, and it
makes no difference how the entries of different keys come between each other.

A flag is never unset, so it ends set if it was set, or if any of its entries sets it.
-/
import TerminalConfig.Proofs.Settings.Entering
import TerminalConfig.Proofs.Settings.Reading

namespace TerminalConfig

open Text

/-- The values that the entries give the key, in their order. -/
def Key.values (key : Key) (entries : List HostEntry) : List (Option String) :=
  (entries.filter (·.name == key.name)).map (·.value)

namespace Key

variable {key : Key} {entry : HostEntry} {entries : List HostEntry}

theorem values_cons_of_eq (h : entry.name = key.name) :
    key.values (entry :: entries) = entry.value :: key.values entries := by
  rw [values, List.filter_cons_of_pos (by simpa using h)]
  rfl

theorem values_cons_of_ne (h : entry.name ≠ key.name) :
    key.values (entry :: entries) = key.values entries := by
  rw [values, List.filter_cons_of_neg (by simpa using h)]
  rfl

theorem name_of_named? {written : String} (h : named? written = some key) : key.name = written := by
  simpa using List.find?_some h

end Key

/-! ### Flags -/

theorem readFlag_eq_true_iff {value : Option String} :
    readFlag value = some true ↔
      value = none ∨ ∃ text, value = some text ∧ lowered (trimmed text) = "true" := by
  cases value with
  | none => simp [readFlag]
  | some text =>
      unfold readFlag
      dsimp only
      split
      · rename_i htrue
        simp [htrue]
      · rename_i hfalse
        simp [hfalse]
      · rename_i hne _
        simpa using hne

namespace Key

variable {key : Key} {value : Option String}

theorem whenSet_of_ne (h : key ≠ .skipConfig) : key.whenSet = .flag true := by
  cases key <;> first | rfl | exact absurd rfl h

theorem accepted?_of_readFlag (hflag : key.isFlag = true) (hkey : key ≠ .skipConfig)
    (h : readFlag value = some true) : key.accepted? value = some (.flag true) := by
  rw [accepted?, if_pos hflag, if_pos h, whenSet_of_ne hkey]

theorem of_accepted?_flag {held : Held} (hflag : key.isFlag = true) (hkey : key ≠ .skipConfig)
    (h : key.accepted? value = some held) : readFlag value = some true ∧ held = .flag true := by
  rw [accepted?, if_pos hflag, whenSet_of_ne hkey] at h
  split at h
  · exact ⟨‹_›, (Option.some.inj h).symm⟩
  · cases h

end Key

/-! ### All that is applied -/

namespace Settings

/-- `t` has all that no key stands for from `s`. -/
structure SameRest (s t : Settings) : Prop where
  configPath : t.configPath = s.configPath
  offPalette : ∀ place, OffPalette place → t.overrides.find? place = s.overrides.find? place

theorem enter_sameRest (s : Settings) (name : String) (value : Option String) :
    s.SameRest (s.enter name value).1 := by
  cases hname : Key.named? name with
  | none =>
      rw [enter, hname]
      exact ⟨rfl, fun _ _ => rfl⟩
  | some key =>
      have hchanged : ChangedAt key s (s.enter name value).1 := enter_changedAt hname
      exact ⟨hchanged.configPath, hchanged.offPalette⟩

/-- An entry with another name does nothing to the part of a key. -/
theorem enter_held_of_ne {name : String} {key : Key} (h : name ≠ key.name) (s : Settings)
    (value : Option String) : (s.enter name value).1.held key = s.held key := by
  cases hname : Key.named? name with
  | none =>
      rw [enter, hname]
  | some other =>
      refine (enter_changedAt hname).held key ?_
      rintro rfl
      exact h (Key.name_of_named? hname).symm

end Settings

namespace Loader

theorem applyAll_cons (l : Loader) (entry : HostEntry) (entries : List HostEntry) :
    l.applyAll (entry :: entries) =
      (l.apply entry.name entry.value entry.line).applyAll entries := rfl

theorem settings_apply (l : Loader) (name : String) (value : Option String) (line : Int) :
    (l.apply name value line).settings = (l.settings.enter name value).1 := rfl

/-- **The part of a key ends as what was accepted last for it**, or as it was at the start. -/
theorem held_applyAll (l : Loader) (entries : List HostEntry) (key : Key) :
    (l.applyAll entries).settings.held key =
      ((key.values entries).filterMap key.accepted?).getLast?.getD (l.settings.held key) := by
  induction entries generalizing l with
  | nil => rfl
  | cons entry entries ih =>
      rw [applyAll_cons, ih, settings_apply]
      by_cases hname : entry.name = key.name
      · rw [Key.values_cons_of_eq hname, hname, Settings.enter_held, List.filterMap_cons]
        cases key.accepted? entry.value with
        | none => rfl
        | some held => simp [List.getLast?_cons]
      · rw [Key.values_cons_of_ne hname, Settings.enter_held_of_ne hname]

theorem sameRest_applyAll (l : Loader) (entries : List HostEntry) :
    l.settings.SameRest (l.applyAll entries).settings := by
  induction entries generalizing l with
  | nil => exact ⟨rfl, fun _ _ => rfl⟩
  | cons entry entries ih =>
      have hfirst := l.settings.enter_sameRest entry.name entry.value
      have hrest := ih (l.apply entry.name entry.value entry.line)
      exact ⟨hrest.configPath.trans hfirst.configPath,
        fun place hplace => (hrest.offPalette place hplace).trans (hfirst.offPalette place hplace)⟩

/-- **A flag ends set exactly if it was set or an entry sets it.** -/
theorem held_applyAll_flag {key : Key} (hflag : key.isFlag = true) (hkey : key ≠ .skipConfig)
    (l : Loader) (entries : List HostEntry) :
    (l.applyAll entries).settings.held key = .flag true ↔
      l.settings.held key = .flag true ∨
        ∃ value ∈ key.values entries, readFlag value = some true := by
  rw [held_applyAll]
  cases hlast : ((key.values entries).filterMap key.accepted?).getLast? with
  | none =>
      have hnone := List.filterMap_eq_nil_iff.mp (List.getLast?_eq_none_iff.mp hlast)
      have hunset : ¬∃ value ∈ key.values entries, readFlag value = some true := by
        rintro ⟨value, hvalue, hset⟩
        have haccepted := Key.accepted?_of_readFlag hflag hkey hset
        rw [hnone value hvalue] at haccepted
        cases haccepted
      exact (or_iff_left hunset).symm
  | some held =>
      obtain ⟨value, hvalue, haccepted⟩ := List.mem_filterMap.mp (List.mem_of_getLast? hlast)
      obtain ⟨hset, rfl⟩ := Key.of_accepted?_flag hflag hkey haccepted
      exact iff_of_true rfl (.inr ⟨value, hvalue, hset⟩)

/-- **Only the order of entries within each key matters.**  Two lists of entries that give each
key the same values in the same order lead to the same settings, whatever else is between
them and whatever their lines.  What takes a value ends as the last value that was accepted
was read, or as it started; a flag ends set if it started so, or if one of its entries is bare
or says `true`.  Whether a value is accepted can be told from the value: it is if nothing is
complained of but the spelling of a list, and then it is so for any settings. -/
theorem applyAll_order {l l' : Loader} (hstart : l.settings = l'.settings)
    {entries entries' : List HostEntry}
    (horder : ∀ key : Key, key.values entries = key.values entries') :
    let final := (l.applyAll entries).settings
    (l'.applyAll entries').settings = final ∧
    (∀ key : Key, key.isFlag = false →
      final.held key =
        ((key.values entries).filterMap key.accepted?).getLast?.getD (l.settings.held key)) ∧
    (∀ key : Key, key.isFlag = true → key ≠ .skipConfig →
      (final.held key = .flag true ↔ l.settings.held key = .flag true ∨
        ∃ value ∈ key.values entries,
          value = none ∨ ∃ text, value = some text ∧ lowered (trimmed text) = "true")) ∧
    (∀ key : Key, key.isFlag = false → ∀ (s : Settings) (value : Option String),
      (key.accepted? value).isSome = true ↔
        ∀ complaint ∈ (s.enter key.name value).2, ∃ problem, complaint = .listProblem problem) := by
  intro final
  refine ⟨?_, fun key _ => held_applyAll l entries key, fun key hflag hkey => ?_,
    fun key hflag s value => Settings.isSome_accepted?_iff hflag s value⟩
  · have hrest := l.sameRest_applyAll entries
    have hrest' := l'.sameRest_applyAll entries'
    rw [hstart] at hrest
    refine Settings.ext_held (fun key => ?_) (hrest'.configPath.trans hrest.configPath.symm)
      fun place hplace =>
        (hrest'.offPalette place hplace).trans (hrest.offPalette place hplace).symm
    rw [held_applyAll, held_applyAll, horder key, hstart]
  · rw [held_applyAll_flag hflag hkey]
    simp only [readFlag_eq_true_iff]

/-- The entries of three keys, put together in two ways. -/
theorem applyAll_order_mixed :
    let entries : List HostEntry := [⟨"rows", some "5", 1⟩, ⟨"no-flash", some " TRUE ", 2⟩,
      ⟨"rows", some "x", 3⟩, ⟨"color-3", some "#010203", 4⟩]
    let entries' : List HostEntry := [⟨"color-3", some "#010203", 0⟩, ⟨"rows", some "5", 0⟩,
      ⟨"rows", some "x", 0⟩, ⟨"no-flash", some " TRUE ", 9⟩]
    let start : Loader := { settings := { rows := 7 } }
    let final := (start.applyAll entries).settings
    (∀ key : Key, key.values entries = key.values entries') ∧
      (start.applyAll entries').settings = final ∧ final.held .rows = .number 5 ∧
      final.held (.color 3) = .rgb (some ⟨1, 2, 3⟩) ∧ final.held .noFlash = .flag true := by
  intro entries entries' start final
  have hall : ∀ key ∈ Key.all, key.values entries = key.values entries' := by decide +kernel
  have horder (key : Key) : key.values entries = key.values entries' := hall key key.mem_all
  obtain ⟨hsame, hvalues, hflags, -⟩ := applyAll_order (rfl : start.settings = start.settings) horder
  have hset : ∃ value ∈ Key.noFlash.values entries,
      value = none ∨ ∃ text, value = some text ∧ lowered (trimmed text) = "true" :=
    ⟨some " TRUE ", by decide +kernel, .inr ⟨_, rfl, by decide +kernel⟩⟩
  exact ⟨horder, hsame, (hvalues .rows rfl).trans (by decide +kernel),
    (hvalues (.color 3) rfl).trans (by decide +kernel),
    (hflags .noFlash rfl (by decide)).mpr (.inr hset)⟩

end Loader

end TerminalConfig
