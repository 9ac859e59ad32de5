/-
What cutting a text loses, and what it finds.

A text that is cut at a mark has lost the mark and nothing else, so every part is a
contiguous piece of it.  And parts that do not spell the mark are found again when the mark
has been put between them.
-/
import TerminalConfig.Text.Split
import Mathlib.Data.List.Infix

namespace TerminalConfig.Text

/-! ### One cut -/

/-- What follows a mark follows it in the text. -/
theorem append_after? {mark cs rest : List Char} (h : after? mark cs = some rest) :
    mark ++ rest = cs := by
  fun_induction after? mark cs with
  | case1 cs => exact (Option.some.inj h).symm
  | case2 => cases h
  | case3 m mark c cs hc ih => rw [List.cons_append, ih h, beq_iff_eq.mp hc]
  | case4 => cases h

/-- Around the mark at which a text is cut stand the two parts. -/
theorem append_cut? {mark cs before after : List Char} (h : cut? mark cs = some (before, after)) :
    before ++ (mark ++ after) = cs := by
  fun_induction cut? mark cs generalizing before with
  | case1 => cases h
  | case2 c cs rest hafter =>
      cases h
      rw [List.nil_append, append_after? hafter]
  | case3 c cs hafter ih =>
      obtain ⟨⟨first, last⟩, hcut, heq⟩ := Option.map_eq_some_iff.mp h
      cases heq
      rw [List.cons_append, ih hcut]

/-! ### Cuts at every mark -/

theorem splitDoubled_ne_nil (mark : Char) (cs : List Char) : splitDoubled mark cs ≠ [] := by
  fun_cases splitDoubled mark cs <;> exact List.cons_ne_nil _ _

/-- The parts with the marks between them are the text. -/
theorem intercalate_splitDoubled (mark : Char) (cs : List Char) :
    [mark, mark].intercalate (splitDoubled mark cs) = cs := by
  fun_induction splitDoubled mark cs with
  | case1 => rfl
  | case2 c => rfl
  | case3 c d cs hmark ih =>
      simp only [Bool.and_eq_true, beq_iff_eq] at hmark
      obtain ⟨rfl, rfl⟩ := hmark
      rw [List.intercalate_cons_of_ne_nil (splitDoubled_ne_nil _ _), ih]
      rfl
  | case4 c d cs hmark hnil ih => exact absurd hnil (splitDoubled_ne_nil _ _)
  | case5 c d cs hmark part parts hparts ih =>
      rw [hparts] at ih
      rw [← ih]
      cases parts with
      | nil => rfl
      | cons next parts => rfl

/-- A part is a contiguous piece of what the parts are joined to. -/
theorem infix_intercalate {sep part : List Char} {parts : List (List Char)} (h : part ∈ parts) :
    part <:+: sep.intercalate parts := by
  induction parts with
  | nil => exact absurd h List.not_mem_nil
  | cons first parts ih =>
      cases parts with
      | nil =>
          rw [List.intercalate_singleton, List.mem_singleton.mp h]
      | cons next parts =>
          rw [List.intercalate_cons_cons]
          obtain rfl | hrest := List.mem_cons.mp h
          · rw [List.append_assoc]
            exact (List.prefix_append _ _).isInfix
          · exact (ih hrest).trans (List.suffix_append _ _).isInfix

theorem infix_of_mem_splitDoubled {mark : Char} {cs part : List Char}
    (h : part ∈ splitDoubled mark cs) : part <:+: cs := by
  have hjoined : part <:+: [mark, mark].intercalate (splitDoubled mark cs) := infix_intercalate h
  rwa [intercalate_splitDoubled] at hjoined

/-! ### Parts that were put together -/

theorem after?_append (mark rest : List Char) : after? mark (mark ++ rest) = some rest := by
  induction mark with
  | nil => rfl
  | cons m mark ih => rw [List.cons_append, after?, if_pos (beq_self_eq_true m), ih]

theorem after?_eq_none {mark cs : List Char} (h : ¬mark <+: cs) : after? mark cs = none := by
  rw [Option.eq_none_iff_forall_ne_some]
  exact fun rest hrest => h ⟨rest, append_after? hrest⟩

theorem cut?_eq_none {mark cs : List Char} (h : ¬mark <:+: cs) : cut? mark cs = none := by
  rw [Option.eq_none_iff_forall_ne_some]
  rintro ⟨before, after⟩ hcut
  exact h ⟨before, after, by rw [List.append_assoc, append_cut? hcut]⟩

/-- A text is cut at a mark that is not spelled earlier. -/
theorem cut?_append {mark before : List Char} (hmark : mark ≠ [])
    (h : ¬mark <:+: before ++ mark.dropLast) (after : List Char) :
    cut? mark (before ++ (mark ++ after)) = some (before, after) := by
  induction before with
  | nil =>
      obtain ⟨m, ms, rfl⟩ := List.exists_cons_of_ne_nil hmark
      rw [List.nil_append, List.cons_append, cut?, ← List.cons_append, after?_append]
  | cons c before ih =>
      have hfirst : ¬mark <+: c :: (before ++ (mark ++ after)) := by
        intro hspelled
        have hlength : mark.length ≤ (c :: before ++ mark.dropLast).length := by
          simp only [List.cons_append, List.length_cons, List.length_append, List.length_dropLast]
          omega
        have hstart : c :: before ++ mark.dropLast <+: c :: (before ++ (mark ++ after)) := by
          rw [List.cons_append, List.cons_prefix_cons, List.prefix_append_right_inj]
          exact ⟨rfl, (List.dropLast_prefix mark).trans (List.prefix_append _ _)⟩
        exact h (List.prefix_of_prefix_length_le hspelled hstart hlength).isInfix
      have hrest : ¬mark <:+: before ++ mark.dropLast := fun hspelled =>
        h (hspelled.trans (List.suffix_cons _ _).isInfix)
      rw [List.cons_append, cut?, after?_eq_none hfirst, ih hrest]
      rfl

theorem splitDoubled_cons_of_ne {mark c : Char} (hc : c ≠ mark) {cs part : List Char}
    {parts : List (List Char)} (h : splitDoubled mark cs = part :: parts) :
    splitDoubled mark (c :: cs) = (c :: part) :: parts := by
  cases cs with
  | nil =>
      obtain ⟨rfl, rfl⟩ := List.cons.inj h
      rfl
  | cons d cs => rw [splitDoubled, if_neg (by simp [hc]), h]

theorem splitDoubled_of_not_mem {mark : Char} {cs : List Char} (h : mark ∉ cs) :
    splitDoubled mark cs = [cs] := by
  induction cs with
  | nil => rfl
  | cons c cs ih =>
      obtain ⟨hc, hcs⟩ := not_or.mp (mt List.mem_cons.mpr h)
      exact splitDoubled_cons_of_ne (Ne.symm hc) (ih hcs)

theorem splitDoubled_append {mark : Char} {part : List Char} (h : mark ∉ part) (rest : List Char) :
    splitDoubled mark (part ++ [mark, mark] ++ rest) = part :: splitDoubled mark rest := by
  induction part with
  | nil => simp [splitDoubled]
  | cons c part ih =>
      obtain ⟨hc, hpart⟩ := not_or.mp (mt List.mem_cons.mpr h)
      exact splitDoubled_cons_of_ne (Ne.symm hc) (ih hpart)

/-- Parts without the mark are found again between the marks. -/
theorem splitDoubled_intercalate {mark : Char} {parts : List (List Char)} (hne : parts ≠ [])
    (h : ∀ part ∈ parts, mark ∉ part) :
    splitDoubled mark ([mark, mark].intercalate parts) = parts := by
  induction parts with
  | nil => exact absurd rfl hne
  | cons part parts ih =>
      obtain ⟨hpart, hparts⟩ := List.forall_mem_cons.mp h
      cases parts with
      | nil => rw [List.intercalate_singleton, splitDoubled_of_not_mem hpart]
      | cons next parts =>
          rw [List.intercalate_cons_cons, splitDoubled_append hpart,
            ih (List.cons_ne_nil _ _) hparts]

/-- Parts that are put together have nothing but their own characters and those between. -/
theorem mem_of_mem_intercalate {sep : List Char} {parts : List (List Char)} {c : Char}
    (h : c ∈ sep.intercalate parts) : c ∈ sep ∨ ∃ part ∈ parts, c ∈ part := by
  induction parts with
  | nil => exact absurd h List.not_mem_nil
  | cons part parts ih =>
      cases parts with
      | nil =>
          rw [List.intercalate_singleton] at h
          exact .inr ⟨part, List.mem_cons_self, h⟩
      | cons next parts =>
          rw [List.intercalate_cons_cons, List.mem_append, List.mem_append] at h
          rcases h with (hpart | hsep) | hrest
          · exact .inr ⟨part, List.mem_cons_self, hpart⟩
          · exact .inl hsep
          · exact (ih hrest).imp_right fun ⟨other, hother, hc⟩ =>
              ⟨other, List.mem_cons_of_mem _ hother, hc⟩

end TerminalConfig.Text
