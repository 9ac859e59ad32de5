/-
Settings as they are written.

Each part of the settings is a line of its own.  A part that is not set has no line.
Texts and colors stand between quotes, numbers do not, and fonts are a list if there is
more than one of them.

For each kind of part there is one lemma, which says that its line is read as one entry
and that this entry puts the part into any settings.
-/
import TerminalConfig.Proofs.Settings.Accepting
import TerminalConfig.Proofs.Lexer.ListLine
import TerminalConfig.Proofs.Lexer.QuotedLine

namespace TerminalConfig

open Text Scanner

/-! ### Lines -/

/-- The fonts as a value. -/
def fontsValue : List String → List Char
  | [] => []
  | [font] => quotation font.toList
  | font :: fonts =>
    '[' :: (quotation font.toList ++
      fonts.flatMap (fun font => ',' :: ' ' :: quotation font.toList) ++ [']'])

/-- A line with a value. -/
def assignment (key : Key) (value : List Char) : List Char :=
  key.name.toList ++ [' ', '=', ' '] ++ value ++ ['\n']

/-- The line of a part, nothing if the part is not set. -/
def Held.line (key : Key) : Held → List Char
  | .nothing => []
  | .flag false => []
  | .flag true => key.name.toList ++ ['\n']
  | .text none => []
  | .text (some content) => assignment key (quotation content.toList)
  | .number n => assignment key (toString n).toList
  | .fonts families => assignment key (fontsValue families)
  | .rgb none => []
  | .rgb (some color) => assignment key (quotation color.text.toList)
  | .rgba none => []
  | .rgba (some color) => assignment key (quotation color.text.toList)

/-- The settings as a text, one line for each part that is set, in the order of `keys`. -/
def Settings.written (s : Settings) (keys : List Key) : List Char :=
  keys.flatMap fun key => (s.held key).line key

/-! ### What can be written -/

/-- A text without backslashes and control characters. -/
def IsPlain (text : String) : Prop :=
  ∀ c ∈ text.toList, c ≠ '\\' ∧ isControl c = false

instance (text : String) : Decidable (IsPlain text) :=
  List.decidableBAll _ text.toList

/-- Settings that come back when they are written. -/
structure Settings.Writable (s : Settings) : Prop where
  configPath : s.configPath = none
  rows : 1 ≤ s.rows ∧ (toString s.rows).length ≤ Numeral.digitLimit
  columns : 1 ≤ s.columns ∧ (toString s.columns).length ≤ Numeral.digitLimit
  fontSize : 1 ≤ s.fontSize ∧ (toString s.fontSize).length ≤ Numeral.digitLimit
  dpi : 1 ≤ s.dpi ∧ (toString s.dpi).length ≤ Numeral.digitLimit
  scrollLines : 0 ≤ s.scrollLines ∧ s.scrollLines ≤ 255
  schemeIndex : 0 ≤ s.schemeIndex ∧ s.schemeIndex ≤ 7
  term : IsPlain s.term
  title : IsPlain s.title
  titleFormat : IsPlain s.titleFormat
  locale : ∀ locale ∈ s.locale, IsPlain locale
  fonts : s.fonts ≠ []
  font : ∀ font ∈ s.fonts, IsPlain font ∧ font ≠ "" ∧ trimmed font = font
  background : ∀ color ∈ s.background, color.HasCode
  foreground : ∀ color ∈ s.foreground, color.HasCode
  dimForeground : s.dimForeground.HasCode
  highlightBackground : s.highlightBackground.HasCode
  highlightForeground : s.highlightForeground.HasCode
  /-- Every color that is replaced is one of the sixteen. -/
  palette : ∀ e ∈ s.overrides.entries, 0 ≤ e.1 ∧ e.1 ≤ 15 ∧ e.2.HasCode

/-! ### What is read of a line -/

variable {key : Key}

/-- The value is taken apart into one text. -/
def HoldsText (text : String) (value : Option String) : Prop :=
  ∃ v, value = some v ∧ ListValue.expand v = { first := text }

/-- A plain text between quotes is read as it was written. -/
theorem sets_quotation {text : String} (hplain : IsPlain text) :
    Sets (assignment key (quotation text.toList)) key.name (HoldsText text) := by
  have hquotable : IsQuotable text := fun c hc =>
    ⟨(hplain c hc).1, fun hcontrol => absurd hcontrol (by simp [(hplain c hc).2])⟩
  have hexpand := expand_keptQuoted fun c hc => (hplain c hc).1
  exact (sets_value key.isKeyChar_name fun _ => run_quotation hquotable).imp
    fun v hv => ⟨_, hv, hexpand⟩

/-- A number is read as it was written. -/
theorem sets_number {n : Int} (hnonneg : 0 ≤ n) :
    Sets (assignment key (toString n).toList) key.name (HoldsText (toString n)) := by
  have hchars : ∀ c ∈ (toString n).toList, isValueChar c = true :=
    fun c hc => isValueChar_of_isDigit (toList_toString_isDigit hnonneg c hc)
  have hwritten (line : Nat) : (inPlain line key.name "").run (toString n).toList =
      (inPlain line key.name (toString n), []) := by
    rw [run_plain hchars, String.ofList_toList]
  have hexpand : ListValue.expand (toString n) = { first := toString n } := by
    refine ListValue.expand_of_plain fun c hc => ⟨?_, ?_⟩
    · rintro rfl
      exact absurd (hchars '[' hc) (by decide)
    · rintro rfl
      exact absurd (hchars '\\' hc) (by decide)
  exact (sets_value key.isKeyChar_name hwritten).imp fun v hv => ⟨_, hv, hexpand⟩

/-! ### What becomes of the settings -/

/-- The line of the part is read as one entry, which puts the part into any settings. -/
def Restores (key : Key) (held : Held) : Prop :=
  Sets (held.line key) key.name fun value =>
    ∀ s : Settings, (s.enter key.name value).2 = [] ∧ (s.enter key.name value).1.held key = held

theorem restores_flag (hflag : key.isFlag = true)
    (hset : ∀ s : Settings, (s.setFlag key).held key = .flag true) :
    Restores key (.flag true) := by
  refine (sets_flag key.isKeyChar_name key.name_ne_empty).imp ?_
  rintro _ rfl s
  rw [Settings.enter_flag hflag]
  exact ⟨rfl, hset s⟩

/-- A single value that suits its setting. -/
theorem restores_single {held : Held} {text : String} (hkey : key.IsSingle)
    (hline : Sets (held.line key) key.name (HoldsText text))
    (hset : ∀ s : Settings, ∃ t, s.setScalar key text = .ok t ∧ t.held key = held) :
    Restores key held := by
  refine hline.imp ?_
  rintro _ ⟨value, rfl, hexpand⟩ s
  obtain ⟨t, ht, hheld⟩ := hset s
  rw [Settings.enter_single hkey hexpand ht]
  exact ⟨rfl, hheld⟩

/-- The code of a color is a plain text. -/
theorem isPlain_code {channels : List Int} (h : ∀ n ∈ channels, Color.IsChannel n) :
    IsPlain (Color.code channels) := by
  have hall : ('#' :: Color.codeDigits).all (fun c => c != '\\' && !isControl c) = true := by
    decide
  intro c hc
  simpa using List.all_eq_true.mp hall c (Color.mem_code h hc)

theorem Rgb.isPlain_text {color : Rgb} (h : color.HasCode) : IsPlain color.text :=
  isPlain_code h

theorem Rgba.isPlain_text {color : Rgba} (h : color.HasCode) : IsPlain color.text :=
  isPlain_code h

/-! ### Fonts -/

/-- Between quotes a plain text looks the same inside a list. -/
theorem quotation_of_isPlain {text : String} (h : IsPlain text) :
    quotation text.toList = '"' :: (escape isSpecialQuoted text.toList ++ ['"']) := by
  have hchars : text.toList.flatMap written = escape isSpecialQuoted text.toList := by
    refine List.flatMap_congr fun c hc => ?_
    obtain ⟨hbackslash, hcontrol⟩ := h c hc
    have hnewline : c ≠ '\n' := by
      rintro rfl
      exact absurd hcontrol (by decide)
    by_cases hquote : c = '"'
    · subst hquote
      rfl
    · simp [written, isSpecialQuoted, hquote, hbackslash, hnewline]
  rw [quotation, hchars]

/-- A font as an element of a list. -/
def fontElement (before : List Char) (hbefore : Layout before) (font : String)
    (h : IsPlain font) : Element where
  text := font.toList
  quoted := true
  before := before
  printable := fun c hc => (h c hc).2
  solid := fun h => by cases h
  layout_before := hbefore

theorem fontElement_laidOut {before : List Char} (hbefore : Layout before) {font : String}
    (h : IsPlain font) :
    (fontElement before hbefore font h).laidOut = before ++ quotation font.toList := by
  rw [quotation_of_isPlain h]
  simp [Element.laidOut, Element.written, fontElement]

/-- A font that is not trimmed comes back whole. -/
theorem fontElement_meant {before : List Char} (hbefore : Layout before) {font : String}
    (h : IsPlain font) (htrim : trimmed font = font) :
    (fontElement before hbefore font h).meant = font := by
  have hlist : trim font.toList = font.toList := by
    have hchars := congrArg String.toList htrim
    rwa [trimmed, String.toList_ofList] at hchars
  have hlast : ∀ c ∈ font.toList.getLast?, isBlank c = false := by
    intro c hc
    have hspace := getLast?_of_trimWith hlist c hc
    rw [← Bool.not_eq_true] at hspace ⊢
    exact mt isWhitespace_of_isBlank hspace
  have hkept : ListValue.kept font.toList = font.toList := ListValue.kept_of_last hlast
  rw [Element.meant, fontElement, hkept, String.ofList_toList]

/-- The fonts after the first, as elements of a list. -/
theorem exists_elements {fonts : List String}
    (h : ∀ font ∈ fonts, IsPlain font ∧ trimmed font = font) :
    ∃ es : List Element, es.map Element.meant = fonts ∧
      writtenOthers es = fonts.flatMap fun font => ',' :: ' ' :: quotation font.toList := by
  induction fonts with
  | nil => exact ⟨[], rfl, rfl⟩
  | cons font fonts ih =>
      obtain ⟨⟨hplain, htrim⟩, hfonts⟩ := List.forall_mem_cons.mp h
      obtain ⟨es, hmeant, hwritten⟩ := ih hfonts
      have hspace : Layout [' '] := .space (Or.inl rfl) .nil
      refine ⟨fontElement [' '] hspace font hplain :: es, ?_, ?_⟩
      · rw [List.map_cons, fontElement_meant hspace hplain htrim, hmeant]
      · rw [writtenOthers, List.flatMap_cons, fontElement_laidOut, List.flatMap_cons, ← hwritten]
        rfl

/-- The line of the fonts. -/
theorem restores_fonts {fonts : List String} (hne : fonts ≠ [])
    (h : ∀ font ∈ fonts, IsPlain font ∧ font ≠ "" ∧ trimmed font = font) :
    Restores .font (.fonts fonts) := by
  have hread : readFonts fonts = .ok fonts := readFonts_self hne fun font hfont => (h font hfont).2
  cases fonts with
  | nil => exact absurd rfl hne
  | cons font others =>
      obtain ⟨⟨hplain, -, htrim⟩, hothers⟩ := List.forall_mem_cons.mp h
      cases others with
      | nil =>
          refine (sets_quotation hplain).imp ?_
          rintro _ ⟨value, rfl, hexpand⟩ s
          have helements : (ListValue.expand value).elements = [font] := by
            rw [hexpand]
            rfl
          rw [Settings.enter_fonts helements (by rw [hexpand]) hread]
          exact ⟨rfl, rfl⟩
      | cons second rest =>
          obtain ⟨es, hmeant, hwritten⟩ :=
            exists_elements fun font hfont => ⟨(hothers font hfont).1, (hothers font hfont).2.2⟩
          have hline : Held.line .font (.fonts (font :: second :: rest)) =
              listLine Key.font.name (fontElement [] .nil font hplain) es := by
            rw [listLine, fontElement_laidOut, hwritten]
            simp [Held.line, fontsValue, assignment]
          have hmore : es.isEmpty = false := by
            cases es with
            | nil => cases hmeant
            | cons => rfl
          rw [Restores, hline]
          refine (sets_list Key.font.isKeyChar_name _ es).imp ?_
          rintro _ ⟨value, rfl, helements, hproblems⟩ s
          rw [List.map_cons, fontElement_meant .nil hplain htrim, hmeant] at helements
          rw [hmore] at hproblems
          rw [Settings.enter_fonts helements hproblems hread]
          exact ⟨rfl, rfl⟩

end TerminalConfig
