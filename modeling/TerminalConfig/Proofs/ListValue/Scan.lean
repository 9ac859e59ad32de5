/-
The reading of a list, character by character.

`scan` is where the reading stands at the end of a value.  A reading that has seen a list
open is one of a list value, so nothing else has to be known of a value to take it apart.

The characters of an element are taken one after the other.  Blanks are the only ones
that can get lost, and which do depends on what follows them; `kept` is what is left of
the text of an element in the end.
-/
import TerminalConfig.ListValue
import Mathlib.Data.List.DropRight

namespace TerminalConfig.ListValue

open Text (isBlank)

/-- Where the reading of a list stands after a value. -/
def scan (value : String) : Scan :=
  value.toList.foldl Scan.step {}

theorem scan_append (a b : String) : scan (a ++ b) = b.toList.foldl Scan.step (scan a) := by
  rw [scan, String.toList_append, List.foldl_append, scan]

theorem scan_push (a : String) (c : Char) : scan (a.push c) = (scan a).step c := by
  rw [scan, String.toList_push, List.foldl_append, List.foldl_cons, List.foldl_nil, scan]

/-! ### Values that are lists -/

theorem Scan.take_opened (σ : Scan) (c : Char) : (σ.take c).opened = σ.opened := by
  unfold take
  grind

theorem Scan.take_escaped (σ : Scan) (c : Char) : (σ.take c).escaped = false := by
  unfold take
  grind

theorem Scan.take_inString (σ : Scan) (c : Char) : (σ.take c).inString = σ.inString := by
  unfold take
  grind

theorem Scan.take_inList (σ : Scan) (c : Char) : (σ.take c).inList = σ.inList := by
  unfold take
  grind

/-- A list opens at a bracket that is neither escaped nor quoted. -/
theorem Scan.step_opened (σ : Scan) (c : Char) :
    (σ.step c).opened = (σ.opened || (c == '[' && !σ.escaped && !σ.inString)) := by
  unfold step
  grind [take_opened]

/-- Only a backslash that is not escaped itself escapes. -/
theorem Scan.step_escaped (σ : Scan) (c : Char) :
    (σ.step c).escaped = (c == '\\' && !σ.escaped) := by
  unfold step
  grind [take_escaped]

/-- A quote opens or closes a quoted part unless it is escaped. -/
theorem Scan.step_inString (σ : Scan) (c : Char) :
    (σ.step c).inString = (σ.inString ^^ (c == '"' && !σ.escaped)) := by
  unfold step
  grind [take_inString]

/-- Outside quotes a bracket that is not escaped opens or closes the list. -/
theorem Scan.step_inList (σ : Scan) (c : Char) :
    (σ.step c).inList =
      if σ.escaped || σ.inString then σ.inList
      else if c == '[' then true else if c == ']' then false else σ.inList := by
  unfold step
  grind [take_inList]

/-- A list has been seen to open only if it was open before, or if a bracket follows that
is not escaped. -/
theorem Scan.opened_or_opensList {cs : List Char} {σ : Scan}
    (h : (cs.foldl step σ).opened = true) :
    σ.opened = true ∨ opensList σ.escaped cs = true := by
  induction cs generalizing σ with
  | nil => exact Or.inl h
  | cons c cs ih =>
      rcases ih h with hopened | hopens
      · rw [step_opened] at hopened
        rw [opensList]
        grind
      · rw [step_escaped] at hopens
        rw [opensList, hopens, Bool.or_true]
        exact Or.inr rfl

/-- A value in which a list has been seen to open is a list. -/
theorem isList_of_opened {value : String} (h : (scan value).opened = true) :
    isList value = true := by
  rcases Scan.opened_or_opensList h with hopened | hopens
  · exact absurd hopened (by decide)
  · exact hopens

/-- A value in which a list has been seen to open is taken apart as it was read. -/
theorem expand_of_opened {value : String} (h : (scan value).opened = true) :
    expand value = (scan value).expansion value := by
  rw [expand, if_pos (isList_of_opened h), scan]

/-- The elements so far, the current one last. -/
def Scan.elements (σ : Scan) : List String :=
  σ.finished ++ [σ.current]

theorem Scan.expansion_elements (σ : Scan) (value : String) :
    (σ.expansion value).elements = σ.elements := by
  unfold expansion elements
  split <;> simp_all [Expansion.elements]

/-- A list is taken apart into the elements of its reading. -/
theorem expand_elements {value : String} (h : isList value = true) :
    (expand value).elements = (scan value).elements := by
  rw [expand, if_pos h, Scan.expansion_elements, scan]

theorem Scan.expansion_problems (σ : Scan) (value : String) :
    (σ.expansion value).problems = σ.problems value := by
  unfold expansion
  split <;> rfl

theorem opensList_append (σ : Scan) (cs ds : List Char) :
    opensList σ.escaped (cs ++ ds) =
      (opensList σ.escaped cs || opensList (cs.foldl Scan.step σ).escaped ds) := by
  induction cs generalizing σ with
  | nil => rfl
  | cons c cs ih =>
      rw [List.cons_append, opensList, opensList, ← Scan.step_escaped, ih, List.foldl_cons,
        Bool.or_assoc]

/-- A value becomes a list with a bracket that is not escaped. -/
theorem isList_push (value : String) (c : Char) :
    isList (value.push c) = (isList value || (c == '[' && !(scan value).escaped)) := by
  have happend := opensList_append {} value.toList [c]
  rw [isList, String.toList_push, happend]
  simp [opensList, isList, scan]

theorem opensList_blanks {cs : List Char} (h : ∀ c ∈ cs, isBlank c = true) (escaped : Bool) :
    opensList escaped cs = false := by
  induction cs generalizing escaped with
  | nil => rfl
  | cons c cs ih =>
      obtain ⟨hc, hcs⟩ := List.forall_mem_cons.mp h
      have hne : c ≠ '[' := by
        rintro rfl
        exact absurd hc (by decide)
      rw [opensList, ih hcs]
      simp [hne]

theorem isList_append_blanks {value blanks : String}
    (h : ∀ c ∈ blanks.toList, isBlank c = true) : isList (value ++ blanks) = isList value := by
  have happend := opensList_append {} value.toList blanks.toList
  rw [isList, String.toList_append, happend, opensList_blanks h, Bool.or_false, isList]

/-- Blanks move the reading no further than past a backslash. -/
theorem Scan.foldl_blanks {cs : List Char} (h : ∀ c ∈ cs, isBlank c = true) (σ : Scan) :
    (cs.foldl step σ).inString = σ.inString ∧ (cs.foldl step σ).inList = σ.inList ∧
      ((cs.foldl step σ).escaped = true → σ.escaped = true) := by
  induction cs generalizing σ with
  | nil => exact ⟨rfl, rfl, id⟩
  | cons c cs ih =>
      obtain ⟨hc, hcs⟩ := List.forall_mem_cons.mp h
      obtain ⟨hstring, hlist, hescaped⟩ := ih hcs (σ.step c)
      rw [List.foldl_cons, hstring, hlist, step_inString, step_inList]
      rw [step_escaped] at hescaped
      unfold isBlank at hc
      grind

/-! ### What a character does -/

namespace Scan

variable {σ : Scan} {c : Char}

/-- A blank outside quotes does nothing. -/
theorem step_blank (hescaped : σ.escaped = false) (hstring : σ.inString = false)
    (hc : isBlank c = true) : σ.step c = σ := by
  have htake : σ.take c = σ := by
    cases σ
    simp_all [take]
  unfold isBlank at hc
  unfold step
  grind

theorem step_backslash (hescaped : σ.escaped = false) :
    σ.step '\\' = { σ with escaped := true } := by
  simp [step, hescaped]

/-- A character after a backslash is part of an element. -/
theorem step_after_backslash : ({ σ with escaped := true } : Scan).step c = σ.take c :=
  rfl

/-- A character that means nothing where it stands is part of an element. -/
theorem step_plain (hescaped : σ.escaped = false) (hquote : c ≠ '"') (hbackslash : c ≠ '\\')
    (h : σ.inString = true ∨ c ∉ ['[', ']', ',']) : σ.step c = σ.take c := by
  unfold step
  grind

/-- An opening quote gives up the blanks of a quoted part before it. -/
theorem step_opening_quote (hescaped : σ.escaped = false) (hstring : σ.inString = false) :
    σ.step '"' = { σ with inString := true, blanks := "" } := by
  simp [step, hescaped, hstring]

theorem step_closing_quote (hescaped : σ.escaped = false) (hstring : σ.inString = true) :
    σ.step '"' = { σ with inString := false } := by
  simp [step, hescaped, hstring]

theorem step_comma (hescaped : σ.escaped = false) (hstring : σ.inString = false) :
    σ.step ',' =
      { σ with finished := σ.finished ++ [σ.current], current := "", blanks := "" } := by
  simp [step, hescaped, hstring]

theorem take_solid (hc : isBlank c = false) :
    σ.take c =
      { σ with escaped := false, current := (σ.current ++ σ.blanks).push c, blanks := "" } := by
  simp [take, hc]

/-- A quoted blank waits, unless the element is empty. -/
theorem take_blank (hstring : σ.inString = true) (hc : isBlank c = true)
    (hcurrent : σ.current ≠ "") :
    σ.take c = { σ with escaped := false, blanks := σ.blanks.push c } := by
  simp [take, hc, hstring, hcurrent]

/-! ### What waits -/

/-- Nothing waits but blanks. -/
def OnlyBlanks (σ : Scan) : Prop :=
  ∀ c ∈ σ.blanks.toList, isBlank c = true

theorem onlyBlanks_of_empty (h : σ.blanks = "") : σ.OnlyBlanks := by
  simp [OnlyBlanks, h]

theorem OnlyBlanks.take (h : σ.OnlyBlanks) (c : Char) : (σ.take c).OnlyBlanks := by
  unfold Scan.take
  dsimp only
  split
  · exact h
  split
  · rename_i hc
    rw [Bool.and_eq_true] at hc
    intro d hd
    rw [String.toList_push, List.mem_append, List.mem_singleton] at hd
    rcases hd with hd | rfl
    · exact h d hd
    · exact hc.1
  · exact onlyBlanks_of_empty rfl

theorem OnlyBlanks.step (h : σ.OnlyBlanks) (c : Char) : (σ.step c).OnlyBlanks := by
  unfold Scan.step
  split
  · exact h.take c
  split
  · exact h
  split
  · exact h
  split
  · unfold OnlyBlanks
    dsimp only
    split
    · exact h
    · simp
  split
  · exact h
  split
  · exact onlyBlanks_of_empty rfl
  · exact h.take c

theorem OnlyBlanks.foldl_step (h : σ.OnlyBlanks) (cs : List Char) :
    (cs.foldl Scan.step σ).OnlyBlanks := by
  induction cs generalizing σ with
  | nil => exact h
  | cons c cs ih => exact ih (h.step c)

end Scan

/-! ### The text of an element -/

theorem push_ofList (cs : List Char) (c : Char) :
    (String.ofList cs).push c = String.ofList (cs ++ [c]) := by
  rw [String.push_eq_append, String.singleton_eq_ofList, String.ofList_append]

/-- What is left of the text of an element.  Blanks at its end are given up, but a text
of blanks keeps the first of them. -/
def kept (cs : List Char) : List Char :=
  if cs.all isBlank then cs.take 1 else cs.rdropWhile isBlank

theorem kept_isPrefix (cs : List Char) : kept cs <+: cs := by
  unfold kept
  split
  · exact cs.take_prefix 1
  · exact cs.rdropWhile_prefix isBlank

theorem kept_eq_nil_iff {cs : List Char} : kept cs = [] ↔ cs = [] := by
  unfold kept
  split
  · cases cs <;> simp
  · grind [List.rdropWhile_eq_nil_iff]

/-- A further blank is not kept. -/
theorem kept_concat_of_blank {cs : List Char} {c : Char} (hcs : cs ≠ [])
    (hc : isBlank c = true) : kept (cs ++ [c]) = kept cs := by
  have hall : (cs ++ [c]).all isBlank = cs.all isBlank := by simp [hc]
  have htake : (cs ++ [c]).take 1 = cs.take 1 := by
    cases cs with
    | nil => exact absurd rfl hcs
    | cons => rfl
  rw [kept, hall, htake, List.rdropWhile_concat_pos _ _ _ hc, kept]

/-- A character that is no blank keeps all that is before it. -/
theorem kept_concat_of_solid {cs : List Char} {c : Char} (hc : isBlank c = false) :
    kept (cs ++ [c]) = cs ++ [c] := by
  have hall : (cs ++ [c]).all isBlank = false := by simp [hc]
  rw [kept, hall, List.rdropWhile_concat_neg _ _ _ (by simp [hc])]
  rfl

/-- A text that does not end in a blank is kept as it is. -/
theorem kept_of_last {cs : List Char} (h : ∀ c ∈ cs.getLast?, isBlank c = false) :
    kept cs = cs := by
  rcases List.eq_nil_or_concat' cs with rfl | ⟨cs, c, rfl⟩
  · rfl
  · exact kept_concat_of_solid (h c (by simp))

/-- **An element is read as what is kept of its text**, and the blanks at its end wait.
Outside quotes that is said of a text without blanks only. -/
theorem Scan.foldl_take {σ : Scan} {cs : List Char} (hescaped : σ.escaped = false)
    (hcurrent : σ.current = "") (hblanks : σ.blanks = "")
    (h : σ.inString = true ∨ ∀ c ∈ cs, isBlank c = false) :
    cs.foldl take σ =
      { σ with current := String.ofList (kept cs),
               blanks := String.ofList (cs.drop (kept cs).length) } := by
  induction cs using List.reverseRecOn with
  | nil =>
      cases σ
      simp_all [kept]
  | append_singleton cs c ih =>
      have hinit := ih (h.imp_right fun hsolid d hd => hsolid d (List.mem_append_left _ hd))
      have hprefix := List.prefix_iff_eq_append.mp (kept_isPrefix cs)
      rw [List.foldl_append, hinit, List.foldl_cons, List.foldl_nil]
      by_cases hc : isBlank c = true
      · have hstring : σ.inString = true := by
          rcases h with hstring | hsolid
          · exact hstring
          · have hfalse := hsolid c (by simp)
            exact absurd hc (by simp [hfalse])
        by_cases hcs : cs = []
        · subst hcs
          have hone : kept [c] = [c] := by simp [kept, hc]
          have hnil : kept [] = [] := rfl
          simp [take, hone, hnil, hstring, hc, hescaped]
        · have hne : String.ofList (kept cs) ≠ "" := by simpa [kept_eq_nil_iff] using hcs
          have hlength : (kept cs).length ≤ cs.length := (kept_isPrefix cs).length_le
          rw [take_blank (by exact hstring) hc (by exact hne), kept_concat_of_blank hcs hc,
            push_ofList, List.drop_append_of_le_length hlength, ← hescaped]
      · rw [Bool.not_eq_true] at hc
        rw [take_solid hc, ← String.ofList_append, hprefix, push_ofList,
          kept_concat_of_solid hc, List.drop_length, ← hescaped]

end TerminalConfig.ListValue
