/-
Looking up the colors that replace those of a scheme.

What can be looked up is all there is to replacements: since their places ascend, two of
them with the same colors at all places are equal.
-/
import TerminalConfig.Settings.Basic

namespace TerminalConfig.Overrides

theorem lookup_cons_eq (i place : Int) (color : Rgb) (entries : List (Int × Rgb)) :
    ((i, color) :: entries).lookup place =
      if place = i then some color else entries.lookup place := by
  by_cases h : place = i
  · rw [if_pos h, h, List.lookup_cons_self]
  · rw [if_neg h, List.lookup_cons, beq_false_of_ne h]

theorem lookup_put (index place : Int) (color : Rgb) (entries : List (Int × Rgb)) :
    (put index color entries).lookup place =
      if place = index then some color else entries.lookup place := by
  fun_induction put index color entries with
  | case1 => exact lookup_cons_eq index place color []
  | case2 i c rest _ => exact lookup_cons_eq index place color _
  | case3 c rest _ => grind [lookup_cons_eq]
  | case4 i c rest _ hne ih => grind [lookup_cons_eq]

/-- The color at a place after one has been put there or elsewhere. -/
theorem find?_insert (o : Overrides) (index place : Int) (color : Rgb) :
    (o.insert index color).find? place =
      if place = index then some color else o.find? place :=
  lookup_put index place color o.entries

/-- No place before the first one has a color. -/
theorem lookup_of_lt {place : Int} {entries : List (Int × Rgb)}
    (h : ∀ e ∈ entries, place < e.1) : entries.lookup place = none := by
  rw [List.lookup_eq_none_iff]
  intro e he
  have hlt := h e he
  simp only [bne_iff_ne]
  omega

/-- The first place comes before every place that has a color. -/
theorem le_of_lookup {i place : Int} {c color : Rgb} {entries : List (Int × Rgb)}
    (hascending : ((i, c) :: entries).Pairwise (·.1 < ·.1))
    (h : ((i, c) :: entries).lookup place = some color) : i ≤ place := by
  refine Int.not_lt.mp fun hlt => ?_
  have hrest := (List.pairwise_cons.mp hascending).1
  have hnone : ((i, c) :: entries).lookup place = none :=
    lookup_of_lt (List.forall_mem_cons.mpr ⟨hlt, fun e he => Int.lt_trans hlt (hrest e he)⟩)
  rw [hnone] at h
  cases h

theorem eq_of_lookup {l m : List (Int × Rgb)} (hl : l.Pairwise (·.1 < ·.1))
    (hm : m.Pairwise (·.1 < ·.1)) (h : ∀ place, l.lookup place = m.lookup place) : l = m := by
  induction l generalizing m with
  | nil =>
      cases m with
      | nil => rfl
      | cons q m =>
          have hfirst := h q.1
          rw [List.lookup_cons_self] at hfirst
          cases hfirst
  | cons p l ih =>
      obtain ⟨i, c⟩ := p
      have hleft := h i
      rw [List.lookup_cons_self] at hleft
      cases m with
      | nil => cases hleft
      | cons q m =>
          obtain ⟨j, d⟩ := q
          have hright := h j
          rw [List.lookup_cons_self] at hright
          have hplace : i = j :=
            Int.le_antisymm (le_of_lookup hl hright) (le_of_lookup hm hleft.symm)
          subst hplace
          rw [List.lookup_cons_self] at hleft
          obtain ⟨hi, hl'⟩ := List.pairwise_cons.mp hl
          obtain ⟨hj, hm'⟩ := List.pairwise_cons.mp hm
          have hrest : l = m := by
            refine ih hl' hm' fun place => ?_
            have htail := h place
            rw [lookup_cons_eq, lookup_cons_eq] at htail
            by_cases hfirst : place = i
            · rw [hfirst, lookup_of_lt hi, lookup_of_lt hj]
            · rwa [if_neg hfirst, if_neg hfirst] at htail
          rw [Option.some.inj hleft, hrest]

/-- **Replacements with the same colors at all places are equal.** -/
theorem ext_find? {a b : Overrides} (h : ∀ place, a.find? place = b.find? place) : a = b := by
  obtain ⟨l, hl⟩ := a
  obtain ⟨m, hm⟩ := b
  have heq : l = m := eq_of_lookup hl hm h
  subst heq
  rfl

end TerminalConfig.Overrides
