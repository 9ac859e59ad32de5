/-
When the short cut for window titles is one.

A title whose template seems to have no placeholder is rendered without variables and
without a word about its fault.  The question is asked of the template as it is written,
while the rendering leaves control characters out first.  So there are templates that
hide a placeholder: a backslash escapes a control character, and once that is gone it
escapes a second backslash, which no longer escapes a brace.

The main statement says exactly when the short cut gives the title in full: always, unless
the template hides a placeholder, and then only if the variables happen to make no
difference.
-/
import TerminalConfig.Title
import TerminalConfig.Proofs.Template.Literal
import TerminalConfig.Proofs.Variable.Fitting

namespace TerminalConfig

open Text

/-! ### The numbers of a title -/

/-- The numbers that a title may show fit into 32 bits without a sign. -/
def Settings.NumbersFit (s : Settings) : Prop :=
  ∀ n ∈ [s.rows, s.columns, s.fontSize, s.dpi], 0 ≤ n ∧ n < UInt32.size

/-- Numbers that fit become variables. -/
theorem titleVariables_isOk {s : Settings} (h : s.NumbersFit) (programTitle : Option String) :
    ∃ vars, titleVariables s programTitle = .ok vars := by
  have hmake (name : String) {n : Int} (hn : n ∈ [s.rows, s.columns, s.fontSize, s.dpi]) :
      Variable.make name .uint32 (.integer n) =
        .ok ⟨name, .uint32 (UInt32.ofNat n.toNat)⟩ :=
    Variable.make_uint32 name rfl ((fitsUInt32_iff n).mpr (h n hn))
  have hrows := hmake "rows" (show s.rows ∈ _ by simp)
  have hcolumns := hmake "cols" (show s.columns ∈ _ by simp)
  have hsize := hmake "font_size" (show s.fontSize ∈ _ by simp)
  have hdpi := hmake "dpi" (show s.dpi ∈ _ by simp)
  simp only [titleVariables, hrows, hcolumns, hsize, hdpi]
  exact ⟨_, rfl⟩

/-! ### The title in full -/

/-- What is seen of a title: its text, and what the log says. -/
def Rendering.seen (r : Rendering) : String × List String :=
  (r.text, titleWarnings r)

/-- The title rendered with its variables in every case. -/
def titleInFull (s : Settings) (programTitle : Option String) : Except TitleError Rendering :=
  match titleVariables s programTitle with
  | .error error => .error (.badVariable error)
  | .ok vars => (interpolate s.titleFormat (Scope.ofVariables vars)).mapError .badNumeral

/-- The text of the title rendered without variables. -/
def titleWithoutVariables (s : Settings) : Except TitleError String :=
  ((interpolate s.titleFormat {}).mapError .badNumeral).map (·.text)

/-- The template has a placeholder only once its control characters are left out. -/
def HidesPlaceholder (template : String) : Prop :=
  needsInterpolation template = false ∧
    Template.hasPlaceholder (template.toList.filter fun c => !isControl c) = true

/-- A template that hides a placeholder has a control character with a backslash before
it. -/
theorem escapesControl_of_hidesPlaceholder {template : String} (h : HidesPlaceholder template) :
    Template.escapesControl template.toList = true := by
  by_cases hcontrol : Template.escapesControl template.toList = true
  · exact hcontrol
  · have hsame := Template.hasPlaceholder_filter (by simpa using hcontrol)
    rw [h.2] at hsame
    have hneeds : Template.hasPlaceholder template.toList = false := h.1
    rw [hneeds] at hsame
    exact absurd hsame (by decide)

/-- Without placeholders the variables make no difference, and there is no fault. -/
theorem interpolate_of_not_hasPlaceholder {template : String}
    (h : Template.hasPlaceholder (template.toList.filter fun c => !isControl c) = false)
    (scope : Scope) : interpolate template scope =
      .ok ⟨String.ofList (unescape (template.toList.filter fun c => !isControl c)), none⟩ := by
  rw [interpolate, Template.render_of_not_hasPlaceholder scope h]
  rfl

theorem seen_renderTitle_of_needs {s : Settings} (h : needsInterpolation s.titleFormat = true)
    (programTitle : Option String) : renderTitle s programTitle = titleInFull s programTitle := by
  rw [renderTitle, if_pos h]
  rfl

theorem seen_renderTitle_of_not_needs {s : Settings}
    (h : needsInterpolation s.titleFormat = false) (programTitle : Option String) :
    (renderTitle s programTitle).map Rendering.seen = (titleWithoutVariables s).map (·, []) := by
  rw [renderTitle, if_neg (by simp [h]), titleWithoutVariables]
  cases interpolate s.titleFormat {} <;> rfl

/-- **The title is the title in full exactly if the template hides no placeholder, or if
the title in full has no fault and the text that it has without variables.**  Only a
control character with a backslash before it can hide a placeholder. -/
theorem renderTitle_eq_titleInFull_iff {s : Settings} (h : s.NumbersFit)
    (programTitle : Option String) :
    (∃ vars, titleVariables s programTitle = .ok vars) ∧
    ((renderTitle s programTitle).map Rendering.seen =
        (titleInFull s programTitle).map Rendering.seen ↔
      ¬HidesPlaceholder s.titleFormat ∨
        (titleInFull s programTitle).map Rendering.seen =
          (titleWithoutVariables s).map (·, [])) ∧
    (HidesPlaceholder s.titleFormat →
      Template.escapesControl s.titleFormat.toList = true) := by
  obtain ⟨vars, hvars⟩ := titleVariables_isOk h programTitle
  refine ⟨⟨vars, hvars⟩, ?_, escapesControl_of_hidesPlaceholder⟩
  by_cases hneeds : needsInterpolation s.titleFormat = true
  · have hhides : ¬HidesPlaceholder s.titleFormat := fun hh => absurd hh.1 (by simp [hneeds])
    rw [seen_renderTitle_of_needs hneeds]
    simp [hhides]
  · have hneeds : needsInterpolation s.titleFormat = false := by simpa using hneeds
    rw [seen_renderTitle_of_not_needs hneeds]
    constructor
    · intro heq
      exact Or.inr heq.symm
    · rintro (hhides | heq)
      · have hplain : Template.hasPlaceholder
            (s.titleFormat.toList.filter fun c => !isControl c) = false := by
          by_cases hp : Template.hasPlaceholder
              (s.titleFormat.toList.filter fun c => !isControl c) = true
          · exact absurd ⟨hneeds, hp⟩ hhides
          · simpa using hp
        rw [titleWithoutVariables, titleInFull, hvars]
        simp only [interpolate_of_not_hasPlaceholder hplain]
        rfl
      · exact heq.symm

/-- A control character with a backslash before it that hides nothing: the brace counts
until the control character is gone, and the title in full has none. -/
theorem renderTitle_escaped_control :
    let s : Settings := { titleFormat := "\\\x01\x7bapp_title\x7d" }
    s.NumbersFit ∧ (renderTitle s (some "vim")).map Rendering.seen =
      (titleInFull s (some "vim")).map Rendering.seen := by
  intro s
  have hfit : s.NumbersFit := by
    unfold Settings.NumbersFit
    decide
  have hhides : ¬HidesPlaceholder s.titleFormat := fun hh => absurd hh.1 (by decide)
  exact ⟨hfit, (renderTitle_eq_titleInFull_iff hfit (some "vim")).2.1.mpr (Or.inl hhides)⟩

/-- A hidden placeholder: the title lacks what the title in full has. -/
theorem renderTitle_hidden_placeholder :
    (renderTitle { titleFormat := "\\\x01\\\x7bapp_title\x7d" } none).map Rendering.seen =
        .ok ("\\", []) ∧
      (titleInFull { titleFormat := "\\\x01\\\x7bapp_title\x7d" } none).map Rendering.seen =
        .ok ("\\Wayst", []) :=
  ⟨eq_ok_of_toOption (by decide +kernel), eq_ok_of_toOption (by decide +kernel)⟩

end TerminalConfig
