/-
What each key governs.

Every key stands for one part of the settings, but for the two that choose the settings
text and stand for nothing.  `held` is the part of a key, so that what is said of settings
key by key can be said once.

  * Settings are nothing but their parts: with the same parts at all keys, the same file
    and the same colors at places that no key names, they are equal.
  * An entry changes no part but that of its key.
-/
import TerminalConfig.Settings.Loader
import TerminalConfig.Proofs.Settings.Overrides

namespace TerminalConfig

/-- The part of the settings that a key stands for. -/
inductive Held
  | nothing
  | flag (set : Bool)
  | text (text : Option String)
  | number (n : Int)
  | fonts (fonts : List String)
  | rgb (color : Option Rgb)
  | rgba (color : Option Rgba)
deriving DecidableEq, Repr

namespace Settings

/-- The part of the settings that a key stands for.  The flag of the dynamic title is set
if the title is not dynamic. -/
def held (s : Settings) : Key → Held
  | .configFile => .nothing
  | .skipConfig => .nothing
  | .xorgOnly => .flag s.x11IsDefault
  | .term => .text (some s.term)
  | .title => .text (some s.title)
  | .noDynamicTitle => .flag (!s.dynamicTitle)
  | .titleFormat => .text (some s.titleFormat)
  | .locale => .text s.locale
  | .rows => .number s.rows
  | .columns => .number s.columns
  | .background => .rgba s.background
  | .foreground => .rgb s.foreground
  | .color index => .rgb (s.overrides.find? index.val)
  | .dimForeground => .rgb (some s.dimForeground)
  | .highlightBackground => .rgba (some s.highlightBackground)
  | .highlightForeground => .rgb (some s.highlightForeground)
  | .highlightChangesForeground => .flag s.highlightChangesForeground
  | .noFlash => .flag s.noFlash
  | .colorscheme => .number s.schemeIndex
  | .font => .fonts s.fonts
  | .fontSize => .number s.fontSize
  | .dpi => .number s.dpi
  | .scrollLines => .number s.scrollLines

/-- No key names the place. -/
def OffPalette (place : Int) : Prop :=
  ∀ index : Fin 16, place ≠ index.val

/-- `t` differs from `s` in nothing but what the key stands for. -/
structure ChangedAt (key : Key) (s t : Settings) : Prop where
  held : ∀ k, k ≠ key → t.held k = s.held k
  configPath : t.configPath = s.configPath
  offPalette : ∀ place, OffPalette place → t.overrides.find? place = s.overrides.find? place

/-! ### Settings are their parts -/

/-- Settings with the same parts are equal. -/
theorem ext_held {s t : Settings} (hheld : ∀ key, s.held key = t.held key)
    (hpath : s.configPath = t.configPath)
    (hoff : ∀ place, OffPalette place → s.overrides.find? place = t.overrides.find? place) :
    s = t := by
  have hoverrides : s.overrides = t.overrides := by
    refine Overrides.ext_find? fun place => ?_
    by_cases hplace : OffPalette place
    · exact hoff place hplace
    · obtain ⟨index, rfl⟩ : ∃ index : Fin 16, place = index.val := by
        simpa [OffPalette] using hplace
      exact Held.rgb.inj (hheld (.color index))
  have hdynamic : s.dynamicTitle = t.dynamicTitle := by
    have hset := Held.flag.inj (hheld .noDynamicTitle)
    simpa using hset
  cases s
  cases t
  rw [Settings.mk.injEq]
  exact ⟨hpath, Held.flag.inj (hheld .xorgOnly), Option.some.inj (Held.text.inj (hheld .term)),
    Held.text.inj (hheld .locale), Option.some.inj (Held.text.inj (hheld .title)), hdynamic,
    Option.some.inj (Held.text.inj (hheld .titleFormat)), Held.number.inj (hheld .rows),
    Held.number.inj (hheld .columns), Held.fonts.inj (hheld .font),
    Held.number.inj (hheld .fontSize), Held.number.inj (hheld .dpi),
    Held.rgba.inj (hheld .background),
    Option.some.inj (Held.rgba.inj (hheld .highlightBackground)),
    Held.rgb.inj (hheld .foreground),
    Option.some.inj (Held.rgb.inj (hheld .highlightForeground)),
    Option.some.inj (Held.rgb.inj (hheld .dimForeground)),
    Held.flag.inj (hheld .highlightChangesForeground), Held.number.inj (hheld .colorscheme),
    hoverrides, Held.flag.inj (hheld .noFlash), Held.number.inj (hheld .scrollLines)⟩

/-! ### An entry changes only its part -/

theorem ChangedAt.refl (key : Key) (s : Settings) : ChangedAt key s s :=
  ⟨fun _ _ => rfl, rfl, fun _ _ => rfl⟩

theorem setFlag_changedAt (s : Settings) (key : Key) : ChangedAt key s (s.setFlag key) := by
  cases key <;>
    exact ⟨fun k hk => by cases k <;> first | rfl | exact absurd rfl hk, rfl, fun _ _ => rfl⟩

theorem of_map_eq_ok {ε α β : Type} {x : Except ε α} {f : α → β} {b : β}
    (h : x.map f = .ok b) : ∃ a, x = .ok a ∧ f a = b := by
  cases x with
  | error e => cases h
  | ok a => exact ⟨a, rfl, Except.ok.inj h⟩

theorem setOverride_changedAt (s : Settings) (index : Fin 16) (color : Rgb) :
    ChangedAt (.color index) s
      { s with overrides := s.overrides.insert index.val color } where
  held := by
    intro k hk
    cases k with
    | color other =>
        have hother : (other.val : Int) ≠ index.val := by
          intro heq
          exact hk (congrArg Key.color (Fin.ext (Int.ofNat.inj heq)))
        exact congrArg Held.rgb
          ((Overrides.find?_insert s.overrides index.val other.val color).trans (if_neg hother))
    | _ => rfl
  configPath := rfl
  offPalette := fun place hplace =>
    (Overrides.find?_insert s.overrides index.val place color).trans (if_neg (hplace index))

/-- A setting with a single value changes only its part. -/
theorem setScalar_changedAt {s t : Settings} {key : Key} {text : String}
    (h : s.setScalar key text = .ok t) : ChangedAt key s t := by
  have hframe {key : Key} {t : Settings} (hheld : ∀ k, k ≠ key → t.held k = s.held k)
      (hpath : t.configPath = s.configPath) (hoverrides : t.overrides = s.overrides) :
      ChangedAt key s t :=
    ⟨hheld, hpath, fun _ _ => by rw [hoverrides]⟩
  cases key <;> unfold setScalar at h
  case color index =>
    obtain ⟨c, -, rfl⟩ := of_map_eq_ok h
    exact setOverride_changedAt s index c
  all_goals
    first
    | obtain ⟨a, -, rfl⟩ := of_map_eq_ok h
    | obtain rfl := Except.ok.inj h
    exact hframe (fun k hk => by cases k <;> first | rfl | exact absurd rfl hk) rfl rfl

theorem setFonts_changedAt (s : Settings) (fonts : List String) :
    ChangedAt .font s { s with fonts := fonts } :=
  ⟨fun k hk => by cases k <;> first | rfl | exact absurd rfl hk, rfl, fun _ _ => rfl⟩

theorem orComplaint_changedAt {s : Settings} {key : Key} {shown : String}
    {attempt : Except Misfit Settings} (h : ∀ t, attempt = .ok t → ChangedAt key s t) :
    ChangedAt key s (s.orComplaint key shown attempt).1 := by
  cases attempt with
  | error misfit => exact ChangedAt.refl key s
  | ok t => exact h t rfl

theorem setValue_changedAt (s : Settings) (key : Key) (value : String) :
    ChangedAt key s (s.setValue key value).1 := by
  unfold setValue
  split
  · exact ChangedAt.refl key s
  · dsimp only
    split
    · rename_i hfont
      subst hfont
      refine orComplaint_changedAt fun t ht => ?_
      obtain ⟨fonts, -, rfl⟩ := of_map_eq_ok ht
      exact setFonts_changedAt s fonts
    · split
      · exact ChangedAt.refl key s
      · exact orComplaint_changedAt fun t ht => setScalar_changedAt ht

/-- **An entry changes nothing but the part of its key**, whether it is accepted or not. -/
theorem enter_changedAt {s : Settings} {name : String} {key : Key} {value : Option String}
    (h : Key.named? name = some key) : ChangedAt key s (s.enter name value).1 := by
  rw [enter, h]
  dsimp only
  split
  · split
    · exact setFlag_changedAt s key
    · exact ChangedAt.refl key s
    · exact ChangedAt.refl key s
  · split
    · exact ChangedAt.refl key s
    · exact setValue_changedAt s key _

end Settings

end TerminalConfig
