/-
Whether settings that were loaded have a title.

A title may show four numbers of the settings, and each becomes a variable of 32 bits
without a sign.  Loading refuses numbers below 1 for all four, so none is too small, but
it knows no largest number for them.  The settings of a text therefore have the variables
of a title exactly if none of the four is too large, and the complaint names the first
that is.
-/
import TerminalConfig.Proofs.Settings.Valid
import TerminalConfig.Proofs.Title

namespace TerminalConfig

/-! ### Numbers that are loaded -/

namespace Settings

variable {s t : Settings}

/-- The numbers that a title may show, in the order in which they become variables. -/
def titleNumbers (s : Settings) : List Int :=
  [s.rows, s.columns, s.fontSize, s.dpi]

/-- A single value changes a number of the title only to one that it was read as. -/
theorem titleNumbers_setScalar {key : Key} {text : String} (h : s.setScalar key text = .ok t)
    {n : Int} (hn : n ∈ t.titleNumbers) : n ∈ s.titleNumbers ∨ readNumber 1 text = .ok n := by
  unfold titleNumbers at hn ⊢
  cases key <;> unfold setScalar at h
  all_goals
    first
    | obtain ⟨a, ha, rfl⟩ := of_map_eq_ok h
    | obtain rfl := Except.ok.inj h
    grind

theorem titleNumbers_setFlag (key : Key) : (s.setFlag key).titleNumbers = s.titleNumbers := by
  cases key <;> rfl

/-- No number of the title is below 1. -/
def NumbersPositive (s : Settings) : Prop :=
  ∀ n ∈ s.titleNumbers, 1 ≤ n

/-- An entry leaves no number of the title below 1. -/
theorem numbersPositive_of_enters (h : s.Enters t) (hs : s.NumbersPositive) :
    t.NumbersPositive := by
  cases h with
  | same => exact hs
  | flag key => rw [NumbersPositive, titleNumbers_setFlag]; exact hs
  | single hset =>
      intro n hn
      rcases titleNumbers_setScalar hset hn with hold | hread
      · exact hs n hold
      · exact le_of_readNumber hread
  | fonts hfonts => exact hs

end Settings

/-! ### Numbers that become variables -/

variable {s : Settings}

theorem numbersFit_iff :
    s.NumbersFit ↔ ∀ n ∈ s.titleNumbers, fitsUInt32 n = true := by
  simp [Settings.NumbersFit, Settings.titleNumbers, fitsUInt32]

/-- The first number that does not fit is the one that is complained of. -/
theorem titleVariables_of_find? {n : Int}
    (h : s.titleNumbers.find? (fun n => !fitsUInt32 n) = some n) (programTitle : Option String) :
    titleVariables s programTitle = .error (.beyondUInt32 n) := by
  have hmake (name : String) {m : Int} (hm : fitsUInt32 m = true) :
      Variable.make name .uint32 (.integer m) =
        .ok ⟨name, .uint32 (UInt32.ofNat m.toNat)⟩ :=
    Variable.make_uint32 name rfl hm
  have hrefuse (name : String) {m : Int} (hm : fitsUInt32 m = false) :
      Variable.make name .uint32 (.integer m) = .error (.beyondUInt32 m) :=
    Variable.make_uint32_of_not_fit name rfl hm
  simp only [Settings.titleNumbers, List.find?_cons] at h
  unfold titleVariables
  by_cases hrows : fitsUInt32 s.rows = true
  · by_cases hcolumns : fitsUInt32 s.columns = true
    · by_cases hsize : fitsUInt32 s.fontSize = true
      · by_cases hdpi : fitsUInt32 s.dpi = true
        · simp [hrows, hcolumns, hsize, hdpi] at h
        · rw [Bool.not_eq_true] at hdpi
          obtain rfl : s.dpi = n := by simpa [hrows, hcolumns, hsize, hdpi] using h
          simp only [hmake _ hrows, hmake _ hcolumns, hmake _ hsize, hrefuse _ hdpi]
          rfl
      · rw [Bool.not_eq_true] at hsize
        obtain rfl : s.fontSize = n := by simpa [hrows, hcolumns, hsize] using h
        simp only [hmake _ hrows, hmake _ hcolumns, hrefuse _ hsize]
        rfl
    · rw [Bool.not_eq_true] at hcolumns
      obtain rfl : s.columns = n := by simpa [hrows, hcolumns] using h
      simp only [hmake _ hrows, hrefuse _ hcolumns]
      rfl
  · rw [Bool.not_eq_true] at hrows
    obtain rfl : s.rows = n := by simpa [hrows] using h
    simp only [hrefuse _ hrows]
    rfl

/-- The variables of a title are refused for nothing but a number that does not fit. -/
theorem titleVariables_error_iff {e : VariableError} {programTitle : Option String} :
    titleVariables s programTitle = .error e ↔
      ∃ n, s.titleNumbers.find? (fun n => !fitsUInt32 n) = some n ∧ e = .beyondUInt32 n := by
  cases hfind : s.titleNumbers.find? (fun n => !fitsUInt32 n) with
  | some n =>
      rw [titleVariables_of_find? hfind]
      simp [eq_comm]
  | none =>
      have hfit : s.NumbersFit := by simpa [numbersFit_iff] using hfind
      obtain ⟨vars, hvars⟩ := titleVariables_isOk hfit programTitle
      simp [hvars]

theorem mapError_badNumeral_ne {α : Type} (x : Except NumeralError α) (e : VariableError) :
    x.mapError TitleError.badNumeral ≠ .error (.badVariable e) := by
  intro h
  cases x with
  | ok value => cases h
  | error error => cases h

/-- Rendering a title fails for its variables only if there is a placeholder. -/
theorem renderTitle_badVariable_iff {e : VariableError} {programTitle : Option String} :
    renderTitle s programTitle = .error (.badVariable e) ↔
      needsInterpolation s.titleFormat = true ∧ titleVariables s programTitle = .error e := by
  unfold renderTitle
  by_cases hneeds : needsInterpolation s.titleFormat = true
  · rw [if_pos hneeds]
    cases titleVariables s programTitle with
    | error error => simp [hneeds]
    | ok vars => simp [mapError_badNumeral_ne]
  · rw [if_neg hneeds]
    have hne := mapError_badNumeral_ne (interpolate s.titleFormat {}) e
    cases hrender : (interpolate s.titleFormat {}).mapError TitleError.badNumeral with
    | error error =>
        rw [hrender] at hne
        simpa [Except.map, hneeds] using hne
    | ok rendering => simp [Except.map, hneeds]

/-! ### Settings that were loaded -/

theorem numbersPositive_default : ({} : Settings).NumbersPositive := by
  unfold Settings.NumbersPositive
  decide

/-- Loading a text leaves no number of the title below 1. -/
theorem Loader.load_numbersPositive (l : Loader) (source : Source)
    (h : l.settings.NumbersPositive) : (l.load source).settings.NumbersPositive :=
  l.load_keeps (fun _ _ => Settings.numbersPositive_of_enters) source h

/-- The first number of the title that needs more than 32 bits. -/
def Settings.tooLarge? (s : Settings) : Option Int :=
  s.titleNumbers.find? fun n => (UInt32.size : Int) ≤ n

/-- A number that is not too small does not fit only if it is too large. -/
theorem find?_not_fit (h : s.NumbersPositive) :
    s.titleNumbers.find? (fun n => !fitsUInt32 n) = s.tooLarge? := by
  rw [Settings.tooLarge?, ← List.head?_filter, ← List.head?_filter]
  refine congrArg List.head? (List.filter_congr fun n hn => ?_)
  have hone : 1 ≤ n := h n hn
  unfold fitsUInt32
  grind

/-- **Settings that were loaded have the variables of a title exactly if none of its numbers
needs more than 32 bits.**  Otherwise the first that does is complained of, and so it is
when a title with a placeholder is rendered. -/
theorem titleVariables_loaded (source : Source) (programTitle : Option String) :
    let s := (({} : Loader).load source).settings
    (∀ n ∈ s.titleNumbers, 1 ≤ n) ∧
    ((∃ vars, titleVariables s programTitle = .ok vars) ↔ s.tooLarge? = none) ∧
    (∀ n, s.tooLarge? = some n →
      titleVariables s programTitle = .error (.beyondUInt32 n)) ∧
    (∀ e, renderTitle s programTitle = .error (.badVariable e) ↔
      needsInterpolation s.titleFormat = true ∧
        ∃ n, s.tooLarge? = some n ∧ e = .beyondUInt32 n) := by
  intro s
  have hpositive : s.NumbersPositive :=
    Loader.load_numbersPositive {} source numbersPositive_default
  have hfind := find?_not_fit hpositive
  refine ⟨hpositive, ?_, fun n hn => titleVariables_of_find? (hfind.trans hn) programTitle,
    fun e => ?_⟩
  · cases hlarge : s.tooLarge? with
    | none =>
        have hfit : s.NumbersFit := by simpa [numbersFit_iff] using hfind.trans hlarge
        simpa using titleVariables_isOk hfit programTitle
    | some n =>
        rw [titleVariables_of_find? (hfind.trans hlarge)]
        simp
  · rw [renderTitle_badVariable_iff, titleVariables_error_iff, hfind]

/-- A text that is loaded without a complaint, and whose settings have no title. -/
theorem titleVariables_loaded_too_large :
    let loaded := ({} : Loader).load (.text "rows = 4294967296\n".toList)
    loaded.diagnostics = [] ∧ loaded.settings = { rows := 4294967296 } ∧
      titleVariables loaded.settings none = .error (.beyondUInt32 4294967296) ∧
      renderTitle loaded.settings none = .error (.badVariable (.beyondUInt32 4294967296)) := by
  intro loaded
  have hsettings : loaded.settings = { rows := 4294967296 } := by decide +kernel
  have hvars : titleVariables loaded.settings none = .error (.beyondUInt32 4294967296) := by
    rw [hsettings]
    exact titleVariables_of_find? (by decide) none
  have hneeds : needsInterpolation loaded.settings.titleFormat = true := by
    rw [hsettings]
    decide
  exact ⟨by decide +kernel, hsettings, hvars, renderTitle_badVariable_iff.mpr ⟨hneeds, hvars⟩⟩

end TerminalConfig
