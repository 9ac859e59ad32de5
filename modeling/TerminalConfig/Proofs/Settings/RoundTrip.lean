/-
Settings that are written and loaded again.

The lines of a text may stand in any order, so the induction is on the order of the keys.
What holds after some of them is that the parts of the keys so far are as they were
written and that all others are as they were before: a line changes no part but its own,
and a part that has no line is one that nothing needs to be done about.

In the end all parts are as they were written, and settings are nothing but their parts.
-/
import TerminalConfig.Proofs.Settings.Writing

namespace TerminalConfig

open Scanner

namespace Settings

variable {s : Settings}

/-! ### One part -/

/-- The part has no line and is as it is in the settings to begin with, or its line puts it
into any settings. -/
def Returns (key : Key) (held : Held) : Prop :=
  (held.line key = [] ∧ held = ({} : Settings).held key) ∨ Restores key held

variable {key : Key}

theorem returns_flag (set : Bool) (hflag : key.isFlag = true)
    (hdefault : ({} : Settings).held key = .flag false)
    (hset : ∀ t : Settings, (t.setFlag key).held key = .flag true) : Returns key (.flag set) := by
  cases set with
  | false => exact Or.inl ⟨rfl, hdefault.symm⟩
  | true => exact Or.inr (restores_flag hflag hset)

/-- What is read of a single value is put into its place. -/
theorem exists_set {α : Type} {read : String → Except Misfit α} {text : String} {a : α}
    {held : Held} (put : Settings → α → Settings) (hread : read text = .ok a)
    (hset : ∀ t : Settings, t.setScalar key text = (read text).map (put t))
    (hheld : ∀ t, (put t a).held key = held) (t : Settings) :
    ∃ u, t.setScalar key text = .ok u ∧ u.held key = held := by
  refine ⟨put t a, ?_, hheld t⟩
  rw [hset, hread]
  rfl

theorem returns_number {n : Int} (hkey : key.IsSingle) (hnonneg : 0 ≤ n)
    (hset : ∀ s : Settings, ∃ t, s.setScalar key (toString n) = .ok t ∧ t.held key = .number n) :
    Returns key (.number n) :=
  Or.inr (restores_single hkey (sets_number hnonneg) hset)

/-- A number that has no bound above. -/
theorem returns_measure {n : Int} (put : Settings → Int → Settings) (hkey : key.IsSingle)
    (hn : 1 ≤ n ∧ (toString n).length ≤ Numeral.digitLimit)
    (hset : ∀ (t : Settings) (text : String),
      t.setScalar key text = (readNumber 1 text).map (put t))
    (hheld : ∀ t, (put t n).held key = .number n) : Returns key (.number n) :=
  returns_number hkey (Int.le_of_lt hn.1)
    (exists_set put (readNumber_toString hn.2 hn.1) (fun t => hset t _) hheld)

/-- A part that is written as a text between quotes. -/
theorem returns_quotation {held : Held} {text : String} (hkey : key.IsSingle)
    (hplain : IsPlain text) (hline : held.line key = assignment key (quotation text.toList))
    (hset : ∀ s : Settings, ∃ t, s.setScalar key text = .ok t ∧ t.held key = held) :
    Returns key held := by
  refine Or.inr (restores_single hkey ?_ hset)
  rw [hline]
  exact sets_quotation hplain

/-- A color, which is written as its code. -/
theorem returns_color {α : Type} {read : String → Except Misfit α} {code : String} {color : α}
    {held : Held} (put : Settings → α → Settings) (hkey : key.IsSingle) (hplain : IsPlain code)
    (hread : read code = .ok color)
    (hline : held.line key = assignment key (quotation code.toList))
    (hset : ∀ (t : Settings) (text : String), t.setScalar key text = (read text).map (put t))
    (hheld : ∀ t, (put t color).held key = held) : Returns key held :=
  returns_quotation hkey hplain hline (exists_set put hread (fun t => hset t _) hheld)

/-- A color that is replaced is one of those that can be written. -/
theorem Writable.hasCode_of_find? (h : s.Writable) {place : Int} {color : Rgb}
    (hfind : s.overrides.find? place = some color) : color.HasCode := by
  obtain ⟨before, after, hentries, -⟩ := List.lookup_eq_some_iff.mp hfind
  have hmem : (place, color) ∈ s.overrides.entries := by
    rw [hentries]
    simp
  exact (h.palette _ hmem).2.2

/-- **Every part of settings that can be written returns.** -/
theorem Writable.returns (h : s.Writable) (key : Key) : Returns key (s.held key) := by
  cases key with
  | configFile => exact Or.inl ⟨rfl, rfl⟩
  | skipConfig => exact Or.inl ⟨rfl, rfl⟩
  | xorgOnly => exact returns_flag _ rfl rfl fun _ => rfl
  | noDynamicTitle => exact returns_flag _ rfl rfl fun _ => rfl
  | highlightChangesForeground => exact returns_flag _ rfl rfl fun _ => rfl
  | noFlash => exact returns_flag _ rfl rfl fun _ => rfl
  | term => exact returns_quotation ⟨rfl, nofun, nofun⟩ h.term rfl fun _ => ⟨_, rfl, rfl⟩
  | title => exact returns_quotation ⟨rfl, nofun, nofun⟩ h.title rfl fun _ => ⟨_, rfl, rfl⟩
  | titleFormat =>
      exact returns_quotation ⟨rfl, nofun, nofun⟩ h.titleFormat rfl fun _ => ⟨_, rfl, rfl⟩
  | locale =>
      rw [held]
      cases hlocale : s.locale with
      | none => exact Or.inl ⟨rfl, rfl⟩
      | some text =>
          exact returns_quotation ⟨rfl, nofun, nofun⟩ (h.locale text hlocale) rfl
            fun _ => ⟨_, rfl, rfl⟩
  | rows =>
      exact returns_measure (fun t n => { t with rows := n }) ⟨rfl, nofun, nofun⟩ h.rows
        (fun _ _ => rfl) fun _ => rfl
  | columns =>
      exact returns_measure (fun t n => { t with columns := n }) ⟨rfl, nofun, nofun⟩ h.columns
        (fun _ _ => rfl) fun _ => rfl
  | fontSize =>
      exact returns_measure (fun t n => { t with fontSize := n }) ⟨rfl, nofun, nofun⟩ h.fontSize
        (fun _ _ => rfl) fun _ => rfl
  | dpi =>
      exact returns_measure (fun t n => { t with dpi := n }) ⟨rfl, nofun, nofun⟩ h.dpi
        (fun _ _ => rfl) fun _ => rfl
  | scrollLines =>
      obtain ⟨hminimum, hmaximum⟩ := h.scrollLines
      have hread : readClamped 255 (toString s.scrollLines) = .ok s.scrollLines :=
        readClamped_toString hminimum (length_toString_le hminimum (by omega)) hmaximum
      exact returns_number ⟨rfl, nofun, nofun⟩ hminimum
        (exists_set (fun t n => { t with scrollLines := n }) hread (fun _ => rfl) fun _ => rfl)
  | colorscheme =>
      obtain ⟨hminimum, hmaximum⟩ := h.schemeIndex
      have hread : readScheme (toString s.schemeIndex) = .ok s.schemeIndex :=
        readScheme_toString hminimum hmaximum
      exact returns_number ⟨rfl, nofun, nofun⟩ hminimum
        (exists_set (fun t n => { t with schemeIndex := n }) hread (fun _ => rfl) fun _ => rfl)
  | background =>
      rw [held]
      cases hcolor : s.background with
      | none => exact Or.inl ⟨rfl, rfl⟩
      | some color =>
          have hcode := h.background color hcolor
          exact returns_color (fun t c => { t with background := some c }) ⟨rfl, nofun, nofun⟩
            (Rgba.isPlain_text hcode) (readRgba_text hcode) rfl (fun _ _ => rfl) fun _ => rfl
  | foreground =>
      rw [held]
      cases hcolor : s.foreground with
      | none => exact Or.inl ⟨rfl, rfl⟩
      | some color =>
          have hcode := h.foreground color hcolor
          exact returns_color (fun t c => { t with foreground := some c }) ⟨rfl, nofun, nofun⟩
            (Rgb.isPlain_text hcode) (readRgb_text hcode) rfl (fun _ _ => rfl) fun _ => rfl
  | color index =>
      rw [held]
      cases hcolor : s.overrides.find? index.val with
      | none => exact Or.inl ⟨rfl, rfl⟩
      | some color =>
          have hcode := h.hasCode_of_find? hcolor
          have hfind (t : Settings) :
              (t.overrides.insert index.val color).find? index.val = some color := by
            rw [Overrides.find?_insert, if_pos rfl]
          exact returns_color (fun t c => { t with overrides := t.overrides.insert index.val c })
            ⟨rfl, nofun, nofun⟩ (Rgb.isPlain_text hcode) (readRgb_text hcode) rfl
            (fun _ _ => rfl) fun t => congrArg Held.rgb (hfind t)
  | dimForeground =>
      have hcode := h.dimForeground
      exact returns_color (fun t c => { t with dimForeground := c }) ⟨rfl, nofun, nofun⟩
        (Rgb.isPlain_text hcode) (readRgb_text hcode) rfl (fun _ _ => rfl) fun _ => rfl
  | highlightBackground =>
      have hcode := h.highlightBackground
      exact returns_color (fun t c => { t with highlightBackground := c }) ⟨rfl, nofun, nofun⟩
        (Rgba.isPlain_text hcode) (readRgba_text hcode) rfl (fun _ _ => rfl) fun _ => rfl
  | highlightForeground =>
      have hcode := h.highlightForeground
      exact returns_color (fun t c => { t with highlightForeground := c }) ⟨rfl, nofun, nofun⟩
        (Rgb.isPlain_text hcode) (readRgb_text hcode) rfl (fun _ _ => rfl) fun _ => rfl
  | font => exact Or.inr (restores_fonts h.fonts h.font)

/-- No color is replaced where no key could say so. -/
theorem Writable.offPalette (h : s.Writable) {place : Int} (hplace : OffPalette place) :
    s.overrides.find? place = none := by
  rw [Overrides.find?, List.lookup_eq_none_iff]
  intro e he
  obtain ⟨hlow, hhigh, -⟩ := h.palette e he
  have hne := hplace ⟨e.1.toNat, by omega⟩
  rw [bne_iff_ne]
  simp only at hne
  omega

/-! ### Several parts -/

/-- `l'` differs from `l` in the parts of `keys` alone, which are those of `s`. -/
structure Restored (s : Settings) (keys : List Key) (l l' : Loader) : Prop where
  diagnostics : l'.diagnostics = l.diagnostics
  inside : ∀ key ∈ keys, l'.settings.held key = s.held key
  outside : ∀ key ∉ keys, l'.settings.held key = l.settings.held key
  configPath : l'.settings.configPath = l.settings.configPath
  offPalette : ∀ place, OffPalette place →
    l'.settings.overrides.find? place = l.settings.overrides.find? place

/-- One more part. -/
theorem Restored.cons {key : Key} {keys : List Key} {l l' : Loader} {t : Settings}
    (hkey : key ∉ keys) (hchanged : ChangedAt key l.settings t) (hheld : t.held key = s.held key)
    (h : Restored s keys { l with settings := t } l') : Restored s (key :: keys) l l' where
  diagnostics := h.diagnostics
  inside := List.forall_mem_cons.mpr ⟨(h.outside key hkey).trans hheld, h.inside⟩
  outside := by
    intro k hk
    obtain ⟨hne, hmem⟩ := not_or.mp (mt List.mem_cons.mpr hk)
    exact (h.outside k hmem).trans (hchanged.held k hne)
  configPath := h.configPath.trans hchanged.configPath
  offPalette := fun place hplace =>
    (h.offPalette place hplace).trans (hchanged.offPalette place hplace)

/-- An entry that is not complained of. -/
theorem observe_of_accepted {l : Loader} {entry : Entry}
    (h : (l.settings.enter entry.key entry.value).2 = []) :
    l.observe (.entry entry) =
      { l with settings := (l.settings.enter entry.key entry.value).1 } := by
  simp [Loader.observe, Loader.apply, Loader.report, h]

/-- Lines are read one by one, and each restores its part. -/
theorem Writable.run_written (h : s.Writable) {keys : List Key} (hnodup : keys.Nodup)
    (line keyLine : Nat) :
    ∃ (line' keyLine' : Nat) (es : List Entry),
      (lineStart line keyLine).run (s.written keys) =
        (lineStart line' keyLine', es.map .entry) ∧
      ∀ l : Loader, (∀ key ∈ keys, l.settings.held key = ({} : Settings).held key) →
        Restored s keys l ((es.map Event.entry).foldl Loader.observe l) := by
  induction keys generalizing line keyLine with
  | nil =>
      exact ⟨line, keyLine, [], rfl, fun l _ => ⟨rfl, by simp, fun _ _ => rfl, rfl, fun _ _ => rfl⟩⟩
  | cons key keys ih =>
      obtain ⟨hkey, hnodup⟩ := List.nodup_cons.mp hnodup
      rcases h.returns key with ⟨hline, hheld⟩ | hrestores
      · obtain ⟨line', keyLine', es, hrun, hrest⟩ := ih hnodup line keyLine
        refine ⟨line', keyLine', es, ?_, fun l hl => ?_⟩
        · rw [written, List.flatMap_cons, hline]
          exact hrun
        · obtain ⟨hfirst, hothers⟩ := List.forall_mem_cons.mp hl
          exact (hrest l hothers).cons hkey (ChangedAt.refl key _) (hfirst.trans hheld.symm)
      · obtain ⟨mid, midKey, value, hfirst, henter⟩ := hrestores line keyLine
        obtain ⟨line', keyLine', es, hrun, hrest⟩ := ih hnodup mid midKey
        refine ⟨line', keyLine', ⟨key.name, value, line⟩ :: es, run_append hfirst hrun, ?_⟩
        intro l hl
        obtain ⟨hcomplaints, hheld⟩ := henter l.settings
        have hchanged : ChangedAt key l.settings (l.settings.enter key.name value).1 :=
          enter_changedAt key.named?_name
        rw [List.map_cons, List.foldl_cons, observe_of_accepted hcomplaints]
        refine Restored.cons hkey hchanged hheld (hrest _ fun k hk => ?_)
        have hne : k ≠ key := by
          rintro rfl
          exact hkey hk
        exact (hchanged.held k hne).trans (hl k (List.mem_cons_of_mem _ hk))

end Settings

namespace Loader

/-- **Loading undoes writing**, whatever the order of the lines. -/
theorem load_written {s : Settings} (h : s.Writable) {keys : List Key}
    (hkeys : keys.Perm Key.all) :
    ({} : Loader).load (.text (s.written keys)) = ⟨s, []⟩ := by
  obtain ⟨line, keyLine, es, hrun, hrest⟩ := h.run_written (hkeys.nodup_iff.mpr Key.all_nodup) 1 0
  have hread := readSettings_of_entries hrun rfl .listen
  have hr := hrest {} fun _ _ => rfl
  have hload : ({} : Loader).load (.text (s.written keys)) =
      (es.map Event.entry).foldl observe {} := by
    have hcontents : (Source.text (s.written keys)).contents = s.written keys :=
      List.append_nil _
    have hend : (es ++ (lineStart line keyLine).endEntry.toList) = es := List.append_nil _
    rw [load, hcontents, hread, hend]
  have hsettings : (({} : Loader).load (.text (s.written keys))).settings = s := by
    rw [hload]
    refine Settings.ext_held (fun key => hr.inside key (hkeys.mem_iff.mpr key.mem_all)) ?_ ?_
    · exact hr.configPath.trans h.configPath.symm
    · exact fun place hplace => (hr.offPalette place hplace).trans (h.offPalette hplace).symm
  have hdiagnostics : (({} : Loader).load (.text (s.written keys))).diagnostics = [] := by
    rw [hload]
    exact hr.diagnostics
  exact congr (congrArg Loader.mk hsettings) hdiagnostics

/-- Settings with a quote, a number sign and a bracket in the title. -/
def desk : Settings :=
  { x11IsDefault := true, title := "say \"hi\" #1 [x]", rows := 50,
    background := some ⟨1, 2, 3, 15⟩, schemeIndex := 3,
    overrides := Overrides.empty.insert 3 ⟨10, 11, 12⟩, fonts := ["Mono", "Emoji, big"] }

/-- The same settings as they are written, with the keys in reverse. -/
def deskText : List Char :=
  ["scroll-lines = 3", "dpi = 96", "font-size = 10", "font = [\"Mono\", \"Emoji, big\"]",
    "colorscheme = 3", "h-fg-color = \"#FFFFFF\"", "h-bg-color = \"#323232F0\"",
    "fg-color-dim = \"#969696\"", "color-3 = \"#0A0B0C\"", "bg-color = \"#0102030F\"",
    "columns = 80", "rows = 50",
    "title-format = \"\x7b?has_title:\x7btitle\x7d - \x7d\x7bapp_title\x7d\"",
    "title = \"say \\\"hi\\\" #1 [x]\"", "term = \"xterm-256color\"", "xorg-only"].flatMap
    fun line => line.toList ++ ['\n']

theorem load_written_desk : ({} : Loader).load (.text deskText) = ⟨desk, []⟩ := by
  have hwritable : desk.Writable :=
    { configPath := rfl
      rows := by decide
      columns := by decide
      fontSize := by decide
      dpi := by decide
      scrollLines := by decide
      schemeIndex := by decide
      term := by decide
      title := by decide
      titleFormat := by decide
      locale := nofun
      fonts := by decide
      font := by decide
      background := by decide
      foreground := nofun
      dimForeground := by decide
      highlightBackground := by decide
      highlightForeground := by decide
      palette := by decide }
  have htext : desk.written Key.all.reverse = deskText := by decide +kernel
  rw [← htext]
  exact load_written hwritable (List.reverse_perm Key.all)

end Loader

end TerminalConfig
