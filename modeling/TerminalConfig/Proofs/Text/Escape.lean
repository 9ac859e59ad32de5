/-
Texts with a backslash before each special character.

Which characters are special depends on where the text is to stand.  Whatever they are,
every writing of a text that has to survive a reader is `escape` for some of them.

What a reader can find out about escapes is `meant`: the characters without the backslashes
that escape them, and which of them were escaped.  Writing a text with `escape` makes it known
for each character, so a reader only has to be tied to `meant`.
-/
import TerminalConfig.Text.Escape

namespace TerminalConfig.Text

variable {special : Char → Bool}

/-- `cs` with a backslash before each special character. -/
def escape (special : Char → Bool) (cs : List Char) : List Char :=
  cs.flatMap fun c => if special c then ['\\', c] else [c]

theorem escape_cons_of_special {c : Char} (h : special c = true) (cs : List Char) :
    escape special (c :: cs) = '\\' :: c :: escape special cs := by
  simp [escape, h]

theorem escape_cons_of_plain {c : Char} (h : special c = false) (cs : List Char) :
    escape special (c :: cs) = c :: escape special cs := by
  simp [escape, h]

/-- A text without special characters is written as it is. -/
theorem escape_of_plain {cs : List Char} (h : ∀ c ∈ cs, special c = false) :
    escape special cs = cs := by
  induction cs with
  | nil => rfl
  | cons c cs ih =>
      obtain ⟨hc, hcs⟩ := List.forall_mem_cons.mp h
      rw [escape_cons_of_plain hc, ih hcs]

/-! ### What is escaped -/

/-- The characters that a text stands for, each with whether it is escaped. -/
def meant : List Char → List (Char × Bool)
  | [] => []
  | ['\\'] => []
  | '\\' :: c :: cs => (c, true) :: meant cs
  | c :: cs => (c, false) :: meant cs

/-- A character before which no backslash rule applies is not a backslash. -/
theorem ne_backslash {c : Char} {cs : List Char} (hlone : c = '\\' → cs = [] → False)
    (hescape : ∀ d ds, c = '\\' → cs = d :: ds → False) : c ≠ '\\' := by
  intro hc
  cases cs with
  | nil => exact hlone hc rfl
  | cons d ds => exact hescape d ds hc rfl

theorem meant_cons_of_ne {c : Char} (h : c ≠ '\\') (cs : List Char) :
    meant (c :: cs) = (c, false) :: meant cs := by
  rw [meant.eq_def]
  split <;> simp_all

/-- Resolving the escapes leaves the characters that are meant. -/
theorem unescape_eq_map_meant (cs : List Char) : unescape cs = (meant cs).map (·.1) := by
  fun_induction unescape cs with
  | case1 => rfl
  | case2 => rfl
  | case3 c cs ih => rw [meant, List.map_cons, ih]
  | case4 c cs hlone hescape ih =>
      rw [meant_cons_of_ne (ne_backslash hlone hescape), List.map_cons, ih]

/-- A text is meant as it was before it was escaped, with the special characters escaped. -/
theorem meant_escape {cs : List Char} (h : ∀ c ∈ cs, c = '\\' → special c = true) :
    meant (escape special cs) = cs.map fun c => (c, special c) := by
  induction cs with
  | nil => rfl
  | cons c cs ih =>
      obtain ⟨hc, hcs⟩ := List.forall_mem_cons.mp h
      by_cases hspecial : special c = true
      · rw [escape_cons_of_special hspecial, meant, ih hcs, List.map_cons, hspecial]
      · have hplain : special c = false := by simpa using hspecial
        rw [escape_cons_of_plain hplain, meant_cons_of_ne (mt hc hspecial), ih hcs, List.map_cons,
          hplain]

/-- A special mark is escaped wherever it is meant. -/
theorem not_mem_meant_escape {mark : Char} {cs : List Char}
    (h : ∀ c ∈ cs, c = mark ∨ c = '\\' → special c = true) :
    (mark, false) ∉ meant (escape special cs) := by
  rw [meant_escape fun c hc hback => h c hc (.inr hback), List.mem_map]
  rintro ⟨c, hc, hmark⟩
  obtain ⟨rfl, hplain⟩ := Prod.mk.inj hmark
  rw [h _ hc (.inl rfl)] at hplain
  cases hplain

/-- Resolving the escapes gives back what was escaped. -/
theorem unescape_escape (hspecial : special '\\' = true) (cs : List Char) :
    unescape (escape special cs) = cs := by
  have hback : ∀ c ∈ cs, c = '\\' → special c = true := by
    rintro c - rfl
    exact hspecial
  rw [unescape_eq_map_meant, meant_escape hback, List.map_map]
  exact List.map_id cs

/-- Escaping adds nothing but backslashes. -/
theorem mem_escape {cs : List Char} {c : Char} (h : c ∈ escape special cs) :
    c = '\\' ∨ c ∈ cs := by
  simp only [escape, List.mem_flatMap] at h
  obtain ⟨d, hd, hc⟩ := h
  split at hc
  · rcases List.mem_cons.mp hc with rfl | hc
    · exact Or.inl rfl
    · rw [List.mem_singleton.mp hc]
      exact Or.inr hd
  · rw [List.mem_singleton.mp hc]
    exact Or.inr hd

end TerminalConfig.Text
