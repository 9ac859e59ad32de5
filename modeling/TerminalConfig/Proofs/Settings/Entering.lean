/-
What an entry can do to settings.

There are four things: nothing, setting a flag, setting a single value, and setting the
fonts.  `Enters` lists them, so that what is to be shown of an entry is shown of each of
the four, and what every entry keeps is kept by a whole text.

A host may apply entries by itself as well, with any line, and load several texts.  `Call`
is what it may do, and what every entry keeps is kept by all its calls.
-/
import TerminalConfig.Proofs.Settings.Held

namespace TerminalConfig

namespace Settings

/-- An entry may lead from the one settings to the other. -/
inductive Enters (s : Settings) : Settings → Prop
  /-- The entry is refused, or has nothing to say. -/
  | same : Enters s s
  | flag (key : Key) : Enters s (s.setFlag key)
  | single {t : Settings} {key : Key} {text : String} (h : s.setScalar key text = .ok t) :
      Enters s t
  | fonts {elements fonts : List String} (h : readFonts elements = .ok fonts) :
      Enters s { s with fonts := fonts }

variable {s : Settings}

theorem enters_orComplaint {key : Key} {shown : String} {attempt : Except Misfit Settings}
    (h : ∀ t, attempt = .ok t → s.Enters t) : s.Enters (s.orComplaint key shown attempt).1 := by
  cases attempt with
  | error misfit => exact Enters.same
  | ok t => exact h t rfl

theorem enters_setValue (key : Key) (value : String) : s.Enters (s.setValue key value).1 := by
  unfold setValue
  split
  · exact Enters.same
  · dsimp only
    split
    · refine enters_orComplaint fun t ht => ?_
      obtain ⟨fonts, hfonts, rfl⟩ := of_map_eq_ok ht
      exact Enters.fonts hfonts
    · split
      · exact Enters.same
      · exact enters_orComplaint fun t ht => Enters.single ht

/-- Every entry does one of the four. -/
theorem enters_enter (name : String) (value : Option String) : s.Enters (s.enter name value).1 := by
  unfold enter
  split
  · exact Enters.same
  · split
    · split
      · exact Enters.flag _
      · exact Enters.same
      · exact Enters.same
    · split
      · exact Enters.same
      · exact enters_setValue _ _

end Settings

namespace Loader

variable {P : Settings → Prop}

theorem observe_keeps (hkeeps : ∀ s t : Settings, s.Enters t → P s → P t) (l : Loader)
    (event : Event) (h : P l.settings) : P (l.observe event).settings := by
  cases event with
  | entry entry => exact hkeeps _ _ (Settings.enters_enter entry.key entry.value) h
  | problem problem => exact h

/-- **What every entry keeps is kept by loading a text.** -/
theorem load_keeps (hkeeps : ∀ s t : Settings, s.Enters t → P s → P t) (l : Loader)
    (source : Source) (h : P l.settings) : P (l.load source).settings := by
  unfold load
  induction (readSettings .listen source.contents).events generalizing l with
  | nil => exact h
  | cons event events ih => exact ih _ (observe_keeps hkeeps l event h)

end Loader

/-! ### What a host may do -/

/-- An entry that a host applies.  It need not be one of a text, and its line is any number. -/
structure HostEntry where
  name : String
  value : Option String
  line : Int
deriving DecidableEq, Repr

/-- A call of a loader. -/
inductive Call
  | apply (entry : HostEntry)
  | load (source : Source)

namespace Loader

/-- Applies entries one after the other. -/
def applyAll (l : Loader) (entries : List HostEntry) : Loader :=
  entries.foldl (fun l entry => l.apply entry.name entry.value entry.line) l

def call (l : Loader) : Call → Loader
  | .apply entry => l.apply entry.name entry.value entry.line
  | .load source => l.load source

variable {P : Settings → Prop}

/-- **What every entry keeps is kept by all calls.** -/
theorem calls_keep (hkeeps : ∀ s t : Settings, s.Enters t → P s → P t) (l : Loader)
    (calls : List Call) (h : P l.settings) : P (calls.foldl call l).settings := by
  induction calls generalizing l with
  | nil => exact h
  | cons first rest ih =>
      refine ih _ ?_
      cases first with
      | apply entry => exact hkeeps _ _ (Settings.enters_enter entry.name entry.value) h
      | load source => exact load_keeps hkeeps l source h

end Loader

end TerminalConfig
