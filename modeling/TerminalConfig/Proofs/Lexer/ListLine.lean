/-
Lines whose value is a list, as they are written.

An element is written between quotes or, if it has no blanks, as it is, and layout may
stand before and after it.  Between the machine that reads the line and the reading that
takes the list apart, every written character of an element comes to the same: it is
taken as part of the element.  So the invariant is where the reading of the list stands,
and the induction is on the elements.

What cannot be written is a blank at the end of an element.  The reading keeps blanks
aside and never sees a character that would make them count, so an element comes back as
what is `kept` of it.
-/
import TerminalConfig.Proofs.Lexer.Line
import TerminalConfig.Proofs.Lexer.Mirror

namespace TerminalConfig

open ListValue Text

namespace Scanner

variable {σ : Scan} {line : Nat} {key : String}

/-! ### The brackets -/

/-- Where the reading of a list stands after its elements `done`. -/
def within (done : List String) : Scan :=
  { finished := done, inList := true, opened := true }

/-- The opening bracket. -/
theorem run_openingBracket (line : Nat) (key : String) :
    ∃ s, (inPlain line key "").run ['['] = (s, []) ∧ s.Mirrors (within []) ∧ s.key = key ∧
      s.keyLine = line := by
  have hvalue : scan "[" = within [] := by decide
  exact ⟨{ inPlain line key "[" with inList := true }, rfl,
    ⟨rfl, rfl, rfl, rfl, rfl, hvalue, rfl⟩, rfl, rfl⟩

/-- The closing bracket and the end of the line. -/
theorem run_closingBracket {s : Scanner} (hs : s.Mirrors σ) (hescaped : σ.escaped = false)
    (hstring : σ.inString = false) :
    ∃ value line' keyLine', scan value = σ.step ']' ∧
      s.run [']', '\n'] =
        (lineStart line' keyLine', [.entry ⟨s.key, some value, s.keyLine⟩]) := by
  have hclose : s.step ']' = .taken { s.push ']' with inList := false } none := by
    rw [hs.step_eq_stepValue (Or.inl (by decide))]
    simp [stepValue, plain, push, hs.inList, hs.escaped, hs.inString, hescaped, hstring,
      isControl, isBlank]
  have hend : ({ s.push ']' with inList := false } : Scanner).step '\n' =
      .taken (lineStart s.line s.keyLine) (some ⟨s.key, some (s.push ']').value, s.keyLine⟩) := by
    simp [step, stepPlace, stepValue, endValue, afterValue, valueEntry, push, lineStart,
      hs.inValue, hs.inComment, hs.escaped, hs.inString, hescaped, hstring]
  have hnewline : ({ s.push ']' with inList := false } : Scanner).run ['\n'] =
      (lineStart (s.line + 1) s.keyLine,
        [.entry ⟨s.key, some (s.push ']').value, s.keyLine⟩]) := by
    rw [run_singleton, advance_of_taken hend]
    rfl
  exact ⟨(s.push ']').value, s.line + 1, s.keyLine, (hs.push ']').value,
    run_append (run_of_taken hclose (by decide)) hnewline⟩

/-! ### The text of an element -/

/-- A character that means something outside quotes. -/
def isSpecialBare (c : Char) : Bool :=
  c ∈ ['[', ']', ',', '\\', '"', '#']

/-- A character that means something between quotes. -/
def isSpecialQuoted (c : Char) : Bool :=
  c == '"' || c == '\\'

/-- A bare text is taken as it is meant. -/
theorem carries_bareText (hescaped : σ.escaped = false) (hstring : σ.inString = false)
    {cs : List Char} (hcontrol : ∀ c ∈ cs, isControl c = false)
    (hblank : ∀ c ∈ cs, isBlank c = false) :
    Carries (escape isSpecialBare cs) σ (cs.foldl Scan.take σ) := by
  induction cs generalizing σ with
  | nil => exact Carries.nil
  | cons c cs ih =>
      obtain ⟨hcontrol', hcontrols⟩ := List.forall_mem_cons.mp hcontrol
      obtain ⟨hblank', hblanks⟩ := List.forall_mem_cons.mp hblank
      have hrest := ih (Scan.take_escaped σ c) ((Scan.take_inString σ c).trans hstring)
        hcontrols hblanks
      by_cases hc : isSpecialBare c = true
      · rw [escape_cons_of_special hc]
        exact (carries_escaped hescaped hcontrol' (Or.inr ⟨hstring, hblank'⟩)).append hrest
      · have hplain : c ∉ ['[', ']', ',', '\\', '"', '#'] := by simpa [isSpecialBare] using hc
        rw [escape_cons_of_plain (by simpa using hc)]
        exact (carries_bare hescaped hstring hcontrol' hblank' hplain).cons hrest

/-- A text between quotes is taken as it is meant. -/
theorem carries_quotedText (hescaped : σ.escaped = false) (hstring : σ.inString = true)
    {cs : List Char} (hcontrol : ∀ c ∈ cs, isControl c = false) :
    Carries (escape isSpecialQuoted cs) σ (cs.foldl Scan.take σ) := by
  induction cs generalizing σ with
  | nil => exact Carries.nil
  | cons c cs ih =>
      obtain ⟨hcontrol', hcontrols⟩ := List.forall_mem_cons.mp hcontrol
      have hrest := ih (Scan.take_escaped σ c) ((Scan.take_inString σ c).trans hstring) hcontrols
      by_cases hc : isSpecialQuoted c = true
      · have hbracket : c ≠ '[' ∧ c ≠ ']' := by
          constructor <;> rintro rfl <;> exact absurd hc (by decide)
        rw [escape_cons_of_special hc]
        exact (carries_escaped hescaped hcontrol' (Or.inl ⟨hstring, hbracket⟩)).append hrest
      · have hplain : c ≠ '"' ∧ c ≠ '\\' := by simpa [isSpecialQuoted] using hc
        rw [escape_cons_of_plain (by simpa using hc)]
        exact (carries_quoted hescaped hstring hcontrol' hplain.1 hplain.2).cons hrest

/-! ### Elements -/

/-- An element of a list, as it is to be written. -/
structure Element where
  text : List Char
  /-- Whether it stands between quotes. -/
  quoted : Bool
  /-- The layout before it and after it. -/
  before : List Char := []
  after : List Char := []
  printable : ∀ c ∈ text, isControl c = false
  solid : quoted = false → ∀ c ∈ text, isBlank c = false
  layout_before : Layout before := by exact .nil
  layout_after : Layout after := by exact .nil

namespace Element

/-- The element without its layout. -/
def written (e : Element) : List Char :=
  if e.quoted then '"' :: (escape isSpecialQuoted e.text ++ ['"'])
  else escape isSpecialBare e.text

/-- The element with its layout. -/
def laidOut (e : Element) : List Char :=
  e.before ++ e.written ++ e.after

/-- What comes back of the element. -/
def meant (e : Element) : String :=
  String.ofList (kept e.text)

end Element

/-- Where the reading of a list stands after an element, when `done` came before it. -/
def past (done : List String) (e : Element) : Scan :=
  { within done with current := e.meant,
                     blanks := String.ofList (e.text.drop (kept e.text).length) }

theorem carries_written (done : List String) (e : Element) :
    Carries e.written (within done) (past done e) := by
  by_cases hquoted : e.quoted = true
  · have htake : e.text.foldl Scan.take { within done with inString := true } =
        { past done e with inString := true } :=
      Scan.foldl_take rfl rfl rfl (Or.inl rfl)
    have hbody : Carries (escape isSpecialQuoted e.text) { within done with inString := true }
        { past done e with inString := true } :=
      htake ▸ carries_quotedText rfl rfl e.printable
    rw [Element.written, if_pos hquoted]
    refine Carries.cons (carries_opening_quote rfl rfl) (hbody.append ?_)
    exact carries_closing_quote rfl rfl
  · have hsolid := e.solid (by simpa using hquoted)
    have htake : e.text.foldl Scan.take (within done) = past done e :=
      Scan.foldl_take rfl rfl rfl (Or.inr hsolid)
    rw [Element.written, if_neg hquoted, ← htake]
    exact carries_bareText rfl rfl e.printable hsolid

theorem carries_laidOut (done : List String) (e : Element) :
    Carries e.laidOut (within done) (past done e) :=
  ((carries_layout rfl rfl e.layout_before).append (carries_written done e)).append
    (carries_layout rfl rfl e.layout_after)

/-- The elements after the first, each with the comma before it. -/
def writtenOthers (es : List Element) : List Char :=
  es.flatMap fun e => ',' :: e.laidOut

theorem carries_others (done : List String) (e : Element) (es : List Element) :
    ∃ done' last, Carries (writtenOthers es) (past done e) (past done' last) ∧
      done' ++ [last.meant] = done ++ (e :: es).map Element.meant := by
  induction es generalizing done e with
  | nil => exact ⟨done, e, Carries.nil, rfl⟩
  | cons next es ih =>
      obtain ⟨done', last, hcarries, helements⟩ := ih (done ++ [e.meant]) next
      have hcomma : Carries [','] (past done e) (within (done ++ [e.meant])) :=
        carries_comma rfl rfl
      refine ⟨done', last, ?_, ?_⟩
      · exact hcomma.cons ((carries_laidOut _ next).append hcarries)
      · rw [helements, List.append_assoc]
        rfl

/-! ### Lines -/

/-- The line of a list. -/
def listLine (key : String) (e : Element) (es : List Element) : List Char :=
  key.toList ++ [' ', '=', ' '] ++ ('[' :: (e.laidOut ++ writtenOthers es ++ [']', '\n']))

/-- The value is taken apart into the elements, and a single one is remarked upon. -/
def HoldsList (e : Element) (es : List Element) (value : String) : Prop :=
  (expand value).elements = (e :: es).map Element.meant ∧
    (expand value).problems = if es.isEmpty then [.singleElement value e.meant] else []

/-- A value that has been read to the end of its list holds its elements. -/
theorem holdsList_of_scan {value : String} {e last : Element} {es : List Element}
    {done : List String} (hvalue : scan value = (past done last).step ']')
    (helements : done ++ [last.meant] = (e :: es).map Element.meant) :
    HoldsList e es value := by
  have hopened : (scan value).opened = true := by
    rw [hvalue]
    rfl
  have hexpand : expand value = ((past done last).step ']').expansion value := by
    rw [expand_of_opened hopened, hvalue]
  unfold HoldsList
  rw [hexpand]
  cases done with
  | nil =>
      obtain ⟨hlast, hes⟩ := List.cons.inj helements
      have hempty : es = [] := List.map_eq_nil_iff.mp hes.symm
      rw [hempty, List.map_cons, List.map_nil, ← hlast]
      exact ⟨rfl, rfl⟩
  | cons first done =>
      have hmore : es.isEmpty = false := by
        cases es with
        | nil => simp at helements
        | cons => rfl
      rw [← helements, hmore]
      exact ⟨rfl, rfl⟩

/-- **The line of a list gives its key the elements of the list**, wherever it stands. -/
theorem sets_list (hkey : ∀ c ∈ key.toList, isKeyChar c = true) (e : Element)
    (es : List Element) :
    Sets (listLine key e es) key fun v => ∃ value, v = some value ∧ HoldsList e es value := by
  intro line keyLine
  obtain ⟨opened, hopen, hmirrors, hk, hline⟩ := run_openingBracket line key
  obtain ⟨done, last, hothers, helements⟩ := carries_others [] e es
  obtain ⟨next, hrun, hnext, hk', hline'⟩ :=
    ((carries_laidOut [] e).append hothers) opened hmirrors
  obtain ⟨value, line', keyLine', hvalue, hclose⟩ := run_closingBracket hnext rfl rfl
  rw [hk', hline', hk, hline] at hclose
  refine ⟨line', keyLine', some value, ?_, value, rfl, holdsList_of_scan hvalue helements⟩
  exact run_append (run_opening hkey) (run_append hopen (run_append hrun hclose))

end Scanner

open Scanner in
/-- **A list survives being read, whatever its layout.**  Its line gives one entry, and
the value of that entry is taken apart into the elements. -/
theorem readSettings_listLine {key : String} (hkey : ∀ c ∈ key.toList, isKeyChar c = true)
    (e : Element) (es : List Element) (n : Nat) (policy : Policy) :
    ∃ value, readSettings policy (List.replicate n '\n' ++ listLine key e es) =
        ⟨[.entry ⟨key, some value, n + 1⟩], true⟩ ∧
      (ListValue.expand value).elements = (e :: es).map Element.meant ∧
      (ListValue.expand value).problems =
        if es.isEmpty then [.singleElement value e.meant] else [] := by
  obtain ⟨line', keyLine', _, hline, value, rfl, helements, hproblems⟩ :=
    sets_list hkey e es (1 + n) 0
  have hrun := run_append (run_newlines 1 0 n) hline
  rw [Nat.add_comm 1 n] at hrun
  exact ⟨value, @readSettings_of_entries _ _ [⟨key, some value, n + 1⟩] hrun rfl policy,
    helements, hproblems⟩

/-- A quoted element with a bracket and a number sign, a comment, and a bare element with a
comma. -/
theorem readSettings_listLine_with_comment :
    ∃ value, readSettings .listen "\nfont = [\"a] # \" # one\n, b\\,c\t]\n".toList =
        ⟨[.entry ⟨"font", some value, 2⟩], true⟩ ∧
      (ListValue.expand value).elements = ["a] #", "b,c"] ∧
      (ListValue.expand value).problems = [] :=
  @readSettings_listLine "font" (List.all_eq_true.mp (by decide))
    { text := "a] # ".toList, quoted := true, after := " # one\n".toList,
      printable := by simp [isControl], solid := nofun,
      layout_after := .space (Or.inl rfl)
        (@Scanner.Layout.comment " one".toList [] (by decide) .nil) }
    [{ text := "b,c".toList, quoted := false, before := " ".toList, after := "\t".toList,
       printable := by simp [isControl], solid := by simp [isBlank],
       layout_before := .space (Or.inl rfl) .nil, layout_after := .space (Or.inl rfl) .nil }]
    1 .listen

end TerminalConfig
