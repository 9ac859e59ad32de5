/-
The stretches of a list value and the elements that they become.

A value is taken apart at its commas, those aside that are escaped or quoted.  Where a character
stands is said here by itself, without the reading of the list: whether a backslash escapes it,
whether it is between quotes, and whether a bracket is open.  Brackets do not nest, so the first
closing bracket closes all that have been opened.

Of the characters that are no blanks an element has exactly those of its stretch that count, in
their order: nothing is lost, repeated or moved.  There is one exception, and it is the reason
why brackets can get into elements at all.  A closing bracket that comes while no bracket is open
closes nothing, and stands for itself.

The invariant of the reading is that the elements so far are the stretches so far.  The step of
it is what one character adds to the current element.
-/
import TerminalConfig.Proofs.ListValue.Scan

namespace TerminalConfig.ListValue

open Text (isBlank)

/-! ### Where characters stand -/

/-- What the characters before a place mean for the one that stands there. -/
structure Place where
  escaped : Bool := false
  inString : Bool := false
  /-- A bracket has been opened and none closed since. -/
  inList : Bool := false
deriving DecidableEq, Repr

/-- The place after a character. -/
def Place.next (p : Place) (c : Char) : Place where
  escaped := c == '\\' && !p.escaped
  inString := p.inString ^^ (c == '"' && !p.escaped)
  inList :=
    if p.escaped || p.inString then p.inList
    else if c == '[' then true else if c == ']' then false else p.inList

/-- A character and where it stands. -/
structure Placed extends Place where
  char : Char
deriving DecidableEq, Repr

/-- The characters of a text that begins at a place. -/
def placed (p : Place) : List Char → List Placed
  | [] => []
  | c :: cs => ⟨p, c⟩ :: placed (p.next c) cs

namespace Placed

/-- A comma between two elements. -/
def separates (x : Placed) : Bool :=
  x.char == ',' && !x.escaped && !x.inString

/-- A closing bracket that closes nothing. -/
def isStray (x : Placed) : Bool :=
  x.char == ']' && !x.escaped && !x.inString && !x.inList

/-- A character that is part of an element: one that is escaped, one between quotes other than
the quote that ends them and a backslash that escapes, and outside quotes one that is no bracket
besides. -/
def counts (x : Placed) : Bool :=
  x.escaped || (x.inString && !(['"', '\\'].contains x.char)) ||
    (!x.inString && !(['"', '\\', '[', ']'].contains x.char))

end Placed

/-- The stretches of a value between its commas. -/
def stretches (value : String) : List (List Placed) :=
  (placed {} value.toList).splitOnP Placed.separates

/-- The characters that are no blanks. -/
def solid (cs : List Char) : List Char :=
  cs.filter (!isBlank ·)

/-- The characters of a stretch that are kept and are no blanks. -/
def solidText (keep : Placed → Bool) (stretch : List Placed) : List Char :=
  solid ((stretch.filter keep).map Placed.char)

/-! ### Cutting -/

section Cutting

variable {α : Type} (isMark : α → Bool) (xs : List α)

/-- Cutting loses the marks and nothing else. -/
theorem flatten_splitOnP : (xs.splitOnP isMark).flatten = xs.filter (!isMark ·) := by
  induction xs with
  | nil => rfl
  | cons x xs ih =>
      rw [List.splitOnP_cons_eq_if_modifyHead, List.filter_cons, ← ih]
      by_cases hx : isMark x = true
      · simp [hx]
      · obtain ⟨part, parts, hparts⟩ := List.exists_cons_of_ne_nil (List.splitOnP_ne_nil isMark xs)
        simp [hx, hparts]

/-- There is one part more than there are marks. -/
theorem length_splitOnP : (xs.splitOnP isMark).length = xs.countP isMark + 1 := by
  induction xs with
  | nil => rfl
  | cons x xs ih =>
      rw [List.splitOnP_cons_eq_if_modifyHead]
      by_cases hx : isMark x = true
      · rw [if_pos hx, List.length_cons, ih, List.countP_cons_of_pos hx]
      · rw [if_neg hx, List.length_modifyHead, ih, List.countP_cons_of_neg hx]

end Cutting

/-! ### One character -/

theorem solid_append (cs ds : List Char) : solid (cs ++ ds) = solid cs ++ solid ds :=
  List.filter_append cs ds

theorem solid_blanks {cs : List Char} (h : ∀ c ∈ cs, isBlank c = true) : solid cs = [] := by
  simpa [solid] using h

theorem solidText_nil (keep : Placed → Bool) : solidText keep [] = [] := rfl

theorem solidText_cons (keep : Placed → Bool) (x : Placed) (stretch : List Placed) :
    solidText keep (x :: stretch) =
      (if keep x then solid [x.char] else []) ++ solidText keep stretch := by
  rw [solidText, List.filter_cons]
  split
  · rw [List.map_cons, ← List.singleton_append, solid_append, solidText]
  · rfl

/-- What the reading of a list keeps. -/
def Placed.isKept (x : Placed) : Bool :=
  x.counts || x.isStray

namespace Scan

variable {σ : Scan} {c : Char}

/-- Where the reading of a list stands, as a place. -/
def place (σ : Scan) : Place :=
  ⟨σ.escaped, σ.inString, σ.inList⟩

theorem place_step (σ : Scan) (c : Char) : (σ.step c).place = σ.place.next c := by
  rw [place, step_escaped, step_inString, step_inList]
  rfl

theorem step_of_separates (h : (Placed.mk σ.place c).separates = true) :
    σ.step c = { σ with finished := σ.finished ++ [σ.current], current := "", blanks := "" } := by
  simp only [Placed.separates, place, Bool.and_eq_true, beq_iff_eq, Bool.not_eq_true'] at h
  obtain ⟨⟨rfl, hescaped⟩, hstring⟩ := h
  exact step_comma hescaped hstring

theorem take_finished (σ : Scan) (c : Char) : (σ.take c).finished = σ.finished := by
  unfold take
  grind

/-- A character that is taken joins the element, unless it is a blank. -/
theorem solid_take (h : σ.OnlyBlanks) (c : Char) :
    solid (σ.take c).current.toList = solid σ.current.toList ++ solid [c] := by
  by_cases hc : isBlank c = true
  · have hnone : solid [c] = [] := solid_blanks (by simpa using hc)
    rw [hnone, List.append_nil, take]
    dsimp only
    split
    · rfl
    split
    · rfl
    · rw [String.toList_push, String.toList_append, solid_append, solid_append, hnone,
        solid_blanks h, List.append_nil, List.append_nil]
  · rw [Bool.not_eq_true] at hc
    rw [take_solid hc, String.toList_push, String.toList_append, solid_append, solid_append,
      solid_blanks h, List.append_nil]

/-- But for a comma between elements, a character is taken if it is kept, and otherwise leaves
the elements as they are. -/
theorem step_cases (hc : (Placed.mk σ.place c).separates = false) :
    ((Placed.mk σ.place c).isKept = true ∧ σ.step c = σ.take c) ∨
      ((Placed.mk σ.place c).isKept = false ∧ (σ.step c).finished = σ.finished ∧
        (σ.step c).current = σ.current) := by
  simp only [Placed.separates, place] at hc
  simp only [Placed.isKept, Placed.counts, Placed.isStray, place]
  cases hescaped : σ.escaped with
  | true => exact .inl ⟨rfl, by simp [step, hescaped]⟩
  | false =>
      by_cases hquote : c = '"'
      · subst hquote
        exact .inr ⟨by cases σ.inString <;> rfl, by simp [step, hescaped], by simp [step, hescaped]⟩
      by_cases hbackslash : c = '\\'
      · subst hbackslash
        exact .inr ⟨by cases σ.inString <;> rfl, by simp [step, hescaped], by simp [step, hescaped]⟩
      cases hstring : σ.inString with
      | true =>
          exact .inl ⟨by simp [hquote, hbackslash],
            step_plain hescaped hquote hbackslash (.inl hstring)⟩
      | false =>
          by_cases hopening : c = '['
          · subst hopening
            exact .inr ⟨rfl, by simp [step, hescaped, hstring], by simp [step, hescaped, hstring]⟩
          by_cases hclosing : c = ']'
          · subst hclosing
            cases hlist : σ.inList with
            | true => exact .inr ⟨rfl, by simp [step, *], by simp [step, *]⟩
            | false => exact .inl ⟨rfl, by simp [step, hescaped, hstring, hlist]⟩
          · have hcomma : c ≠ ',' := by
              rintro rfl
              simp [hescaped, hstring] at hc
            exact .inl ⟨by simp [hquote, hbackslash, hopening, hclosing],
              step_plain hescaped hquote hbackslash (.inr (by simp [hopening, hclosing, hcomma]))⟩

/-- So a character adds to the current element what is kept of it. -/
theorem solid_step (hblanks : σ.OnlyBlanks) (hc : (Placed.mk σ.place c).separates = false) :
    (σ.step c).finished = σ.finished ∧
      solid (σ.step c).current.toList =
        solid σ.current.toList ++ solidText Placed.isKept [⟨σ.place, c⟩] := by
  rw [solidText_cons, solidText_nil, List.append_nil]
  obtain ⟨hkept, hstep⟩ | ⟨hlost, hfinished, hcurrent⟩ := step_cases hc
  · rw [hstep, if_pos hkept]
    exact ⟨take_finished σ c, solid_take hblanks c⟩
  · rw [hlost, hfinished, hcurrent]
    exact ⟨rfl, (List.append_nil _).symm⟩

/-! ### The whole value -/

/-- What is read before belongs to the first of the stretches that follow. -/
theorem solid_elements_foldl (hblanks : σ.OnlyBlanks) (cs : List Char) :
    (cs.foldl step σ).elements.map (solid ·.toList) =
      σ.finished.map (solid ·.toList) ++
        (((placed σ.place cs).splitOnP Placed.separates).map (solidText Placed.isKept)).modifyHead
          (solid σ.current.toList ++ ·) := by
  induction cs generalizing σ with
  | nil => simp [elements, placed, solidText_nil]
  | cons c cs ih =>
      rw [List.foldl_cons, ih (hblanks.step c), place_step, placed,
        List.splitOnP_cons_eq_if_modifyHead]
      obtain ⟨stretch, later, hstretches⟩ := List.exists_cons_of_ne_nil
        (List.splitOnP_ne_nil Placed.separates (placed (σ.place.next c) cs))
      rw [hstretches]
      by_cases hc : (Placed.mk σ.place c).separates = true
      · rw [if_pos hc, step_of_separates hc]
        simp [solid, solidText_nil]
      · rw [Bool.not_eq_true] at hc
        obtain ⟨hfinished, hcurrent⟩ := solid_step hblanks hc
        rw [hfinished, hcurrent, hc]
        simp [solidText_cons, solidText_nil]

end Scan

/-- Of the characters that are no blanks an element has those of its stretch that are kept. -/
theorem solid_elements {value : String} (h : isList value = true) :
    (expand value).elements.map (solid ·.toList) =
      (stretches value).map (solidText Placed.isKept) := by
  have hwhole : (scan value).elements.map (solid ·.toList) =
      [] ++ ((stretches value).map (solidText Placed.isKept)).modifyHead ([] ++ ·) :=
    Scan.solid_elements_foldl (Scan.onlyBlanks_of_empty rfl) value.toList
  rw [expand_elements h, hwhole]
  exact congrFun List.modifyHead_id _

theorem exists_stretch_iff {value : String} {x : Placed} :
    (∃ stretch ∈ stretches value, x ∈ stretch) ↔
      x ∈ placed {} value.toList ∧ x.separates = false := by
  rw [← List.mem_flatten, stretches, flatten_splitOnP, List.mem_filter, Bool.not_eq_true']

/-! ### Closing brackets that close nothing -/

theorem Placed.isStray_iff {x : Placed} :
    x.isStray = true ↔
      x.char = ']' ∧ x.escaped = false ∧ x.inString = false ∧ x.inList = false := by
  simp [isStray, and_assoc]

theorem Placed.not_counts_of_isStray {x : Placed} (h : x.isStray = true) : x.counts = false := by
  obtain ⟨hchar, hescaped, hstring, -⟩ := isStray_iff.mp h
  simp [counts, hchar, hescaped, hstring]

/-- What is kept besides the characters that count are the stray brackets. -/
theorem count_solidText_isKept (stretch : List Placed) :
    (solidText Placed.isKept stretch).count ']' =
      (solidText Placed.counts stretch).count ']' + stretch.countP Placed.isStray := by
  induction stretch with
  | nil => rfl
  | cons x stretch ih =>
      rw [solidText_cons, solidText_cons, List.count_append, List.count_append, List.countP_cons, ih,
        Placed.isKept]
      cases hstray : x.isStray with
      | false =>
          rw [Bool.or_false, if_neg Bool.false_ne_true]
          omega
      | true =>
          have hone : (solid [x.char]).count ']' = 1 := by
            rw [(Placed.isStray_iff.mp hstray).1]
            decide
          rw [Placed.not_counts_of_isStray hstray, Bool.or_true, if_pos rfl, if_pos rfl,
            if_neg Bool.false_ne_true, hone, List.count_nil]
          omega

theorem exists_stretch_of_isStray {value : String} {x : Placed} (hx : x ∈ placed {} value.toList)
    (hstray : x.isStray = true) :
    ∃ stretch ∈ stretches value, 0 < stretch.countP Placed.isStray := by
  have hcomma : x.separates = false := by
    simp [Placed.separates, (Placed.isStray_iff.mp hstray).1]
  obtain ⟨stretch, hstretch, hmem⟩ := exists_stretch_iff.mpr ⟨hx, hcomma⟩
  exact ⟨stretch, hstretch, List.countP_pos_iff.mpr ⟨x, hmem, hstray⟩⟩

/-- **Taking a list apart loses, repeats and moves nothing.**

  * There is one element more than there are commas that are neither escaped nor quoted.
  * Of the characters that are no blanks each element has exactly those of its stretch that
    count, in their order, if every closing bracket that is neither escaped nor quoted comes
    while a bracket is open.  And it does only then: a closing bracket that comes while none is
    open is found in its element. -/
theorem expand_stretches {value : String} (h : isList value = true) :
    (expand value).elements.length = (placed {} value.toList).countP Placed.separates + 1 ∧
    ((∀ x ∈ placed {} value.toList, x.isStray = false) ↔
      (expand value).elements.map (solid ·.toList) =
        (stretches value).map (solidText Placed.counts)) := by
  have helements := solid_elements h
  refine ⟨?_, ?_⟩
  · have hlength := congrArg List.length helements
    rwa [List.length_map, List.length_map, stretches, length_splitOnP] at hlength
  rw [helements, List.map_inj_left]
  constructor
  · intro hstray stretch hstretch
    have hsame : stretch.filter Placed.isKept = stretch.filter Placed.counts := by
      refine List.filter_congr fun x hx => ?_
      obtain ⟨hmem, -⟩ := exists_stretch_iff.mp ⟨stretch, hstretch, hx⟩
      rw [Placed.isKept, hstray x hmem, Bool.or_false]
    rw [solidText, solidText, hsame]
  · intro hsame x hx
    cases hstray : x.isStray with
    | false => rfl
    | true =>
        obtain ⟨stretch, hstretch, hpos⟩ := exists_stretch_of_isStray hx hstray
        have hcount := count_solidText_isKept stretch
        rw [hsame stretch hstretch] at hcount
        omega

/-- An escaped comma, a quoted one behind it an escaped quote, a bracket inside a list, and a
string that does not end.  The last bracket is quoted. -/
theorem expand_stretches_unterminated :
    let value := "[x\\, y, \" a, \\\"b \", [c [d], \"e ]"
    isList value = true ∧ (expand value).elements = ["x,y", " a, \"b", "cd", "e ]"] ∧
      (expand value).elements.length = 4 ∧
      (stretches value).map (solidText Placed.counts) =
        ["x,y".toList, "a,\"b".toList, "cd".toList, "e]".toList] := by
  intro value
  have h : isList value = true := by decide
  have helements : (expand value).elements = ["x,y", " a, \"b", "cd", "e ]"] := by decide +kernel
  obtain ⟨hlength, hstretches⟩ := expand_stretches h
  refine ⟨h, helements, hlength.trans (by decide +kernel), ?_⟩
  rw [← hstretches.mp (by decide +kernel), helements]
  decide +kernel

/-! ### Values without quotes and backslashes -/

/-- Without quotes and backslashes nothing is quoted or escaped. -/
theorem not_escaped_of_mem_placed {cs : List Char} {p : Place} (hquote : '"' ∉ cs)
    (hbackslash : '\\' ∉ cs) (hescaped : p.escaped = false) (hstring : p.inString = false) :
    ∀ x ∈ placed p cs, x.escaped = false ∧ x.inString = false := by
  induction cs generalizing p with
  | nil => simp [placed]
  | cons c cs ih =>
      obtain ⟨hc, hquote⟩ := not_or.mp (mt List.mem_cons.mpr hquote)
      obtain ⟨hc', hbackslash⟩ := not_or.mp (mt List.mem_cons.mpr hbackslash)
      have hnext : (p.next c).escaped = false ∧ (p.next c).inString = false := by
        simp [Place.next, hescaped, hstring, Ne.symm hc, Ne.symm hc']
      rw [placed, List.forall_mem_cons]
      exact ⟨⟨hescaped, hstring⟩, ih hquote hbackslash hnext.1 hnext.2⟩

/-- Of two brackets only the closing one is kept outside quotes, where it is stray. -/
theorem Placed.of_isKept {x : Placed} (hescaped : x.escaped = false) (hstring : x.inString = false)
    (h : x.isKept = true) : x.char ≠ '[' ∧ (x.char = ']' → x.isStray = true) := by
  simp only [isKept, counts, hescaped, hstring] at h
  refine ⟨?_, ?_⟩
  · intro hchar
    simp [isStray, hchar] at h
  · intro hchar
    simpa [hchar] using h

/-- A character of an element is one that its stretch keeps, if it is no blank. -/
theorem exists_kept_of_mem {value e : String} (h : isList value = true)
    (he : e ∈ (expand value).elements) {c : Char} (hc : c ∈ e.toList) (hsolid : isBlank c = false) :
    ∃ x ∈ placed {} value.toList, x.char = c ∧ x.isKept = true ∧ x.separates = false := by
  have hmem : solid e.toList ∈ (stretches value).map (solidText Placed.isKept) := by
    rw [← solid_elements h]
    exact List.mem_map_of_mem he
  obtain ⟨stretch, hstretch, heq⟩ := List.mem_map.mp hmem
  have hkept : c ∈ solidText Placed.isKept stretch := by
    rw [heq, solid, List.mem_filter]
    exact ⟨hc, by simp [hsolid]⟩
  obtain ⟨x, hx, hchar⟩ := List.mem_map.mp (List.mem_filter.mp hkept).1
  obtain ⟨hx, hkeep⟩ := List.mem_filter.mp hx
  obtain ⟨hplaced, hcomma⟩ := exists_stretch_iff.mp ⟨stretch, hstretch, hx⟩
  exact ⟨x, hplaced, hchar, hkeep, hcomma⟩

theorem count_solid (cs : List Char) : (solid cs).count ']' = cs.count ']' :=
  List.count_filter (by decide)

/-- **Of brackets and commas, only closing brackets get into elements, and only those that close
nothing**, if a list has neither quotes nor backslashes.

  * No element has an opening bracket or a comma.
  * An element has as many closing brackets as its stretch has that come while no bracket is
    open.
  * So no element has any exactly if every closing bracket comes while a bracket is open. -/
theorem expand_unquoted {value : String} (hquote : '"' ∉ value.toList)
    (hbackslash : '\\' ∉ value.toList) (h : isList value = true) :
    (∀ e ∈ (expand value).elements, '[' ∉ e.toList ∧ ',' ∉ e.toList) ∧
    (expand value).elements.map (·.toList.count ']') =
      (stretches value).map (·.countP Placed.isStray) ∧
    ((∀ e ∈ (expand value).elements, ']' ∉ e.toList) ↔
      ∀ x ∈ placed {} value.toList, x.isStray = false) := by
  have hplain := not_escaped_of_mem_placed (p := {}) hquote hbackslash rfl rfl
  have hcounts : (expand value).elements.map (·.toList.count ']') =
      (stretches value).map (·.countP Placed.isStray) := by
    have helements := congrArg (List.map (List.count ']')) (solid_elements h)
    simp only [List.map_map, Function.comp_def, count_solid] at helements
    rw [helements]
    refine List.map_congr_left fun stretch hstretch => ?_
    have hnone : (solidText Placed.counts stretch).count ']' = 0 := by
      refine List.count_eq_zero.mpr fun hmem => ?_
      obtain ⟨x, hx, hchar⟩ := List.mem_map.mp (List.mem_filter.mp hmem).1
      obtain ⟨hx, hcount⟩ := List.mem_filter.mp hx
      obtain ⟨hplaced, -⟩ := exists_stretch_iff.mp ⟨stretch, hstretch, hx⟩
      obtain ⟨hescaped, hstring⟩ := hplain x hplaced
      simp [Placed.counts, hescaped, hstring, hchar] at hcount
    rw [count_solidText_isKept, hnone, Nat.zero_add]
  refine ⟨fun e he => ⟨fun hopening => ?_, fun hcomma => ?_⟩, hcounts, ?_, ?_⟩
  · obtain ⟨x, hx, hchar, hkept, -⟩ := exists_kept_of_mem h he hopening (by decide)
    obtain ⟨hescaped, hstring⟩ := hplain x hx
    exact (Placed.of_isKept hescaped hstring hkept).1 hchar
  · obtain ⟨x, hx, hchar, -, hseparates⟩ := exists_kept_of_mem h he hcomma (by decide)
    obtain ⟨hescaped, hstring⟩ := hplain x hx
    simp [Placed.separates, hescaped, hstring, hchar] at hseparates
  · intro hnone x hx
    cases hstray : x.isStray with
    | false => rfl
    | true =>
        obtain ⟨stretch, hstretch, hpos⟩ := exists_stretch_of_isStray hx hstray
        have hmem := List.mem_map_of_mem (f := (·.countP Placed.isStray)) hstretch
        rw [← hcounts] at hmem
        obtain ⟨e, he, heq⟩ := List.mem_map.mp hmem
        rw [List.count_eq_zero.mpr (hnone e he)] at heq
        omega
  · intro hstray e he hclosing
    obtain ⟨x, hx, hchar, hkept, -⟩ := exists_kept_of_mem h he hclosing (by decide)
    obtain ⟨hescaped, hstring⟩ := hplain x hx
    have hfound := (Placed.of_isKept hescaped hstring hkept).2 hchar
    rw [hstray x hx] at hfound
    cases hfound

/-- A closing bracket before the list, two opening ones that one closes, and one more closing
bracket behind. -/
theorem expand_unquoted_unbalanced :
    let value := "a] [[b, c], d]"
    '"' ∉ value.toList ∧ '\\' ∉ value.toList ∧ isList value = true ∧
      (expand value).elements = ["a]b", "c", "d]"] ∧
      (∀ e ∈ (expand value).elements, '[' ∉ e.toList ∧ ',' ∉ e.toList) ∧
      (stretches value).map (·.countP Placed.isStray) = [1, 0, 1] ∧
      ¬∀ x ∈ placed {} value.toList, x.isStray = false := by
  intro value
  have hquote : '"' ∉ value.toList := by decide
  have hbackslash : '\\' ∉ value.toList := by decide
  have h : isList value = true := by decide
  have helements : (expand value).elements = ["a]b", "c", "d]"] := by decide +kernel
  obtain ⟨hopening, hcounts, hclosing⟩ := expand_unquoted hquote hbackslash h
  refine ⟨hquote, hbackslash, h, helements, hopening, ?_, ?_⟩
  · rw [← hcounts, helements]
    decide
  · rw [← hclosing, helements]
    decide

/-- A closing bracket before the list gets into an element. -/
theorem expand_stray :
    let value := "a], [b, c]"
    '"' ∉ value.toList ∧ '\\' ∉ value.toList ∧ isList value = true ∧
      (expand value).elements = ["a]", "b", "c"] ∧
      ∃ e ∈ (expand value).elements, ']' ∈ e.toList := by
  decide +kernel

end TerminalConfig.ListValue
