/-
What trimming leaves alone.

All trimming here takes a class of characters from both ends of a text, so a text whose
two ends are not of the class stays as it is.  What trimming leaves is such a text.
-/
import TerminalConfig.Text.Whitespace

namespace TerminalConfig.Text

variable {drop : Char → Bool} {cs : List Char}

theorem dropWhile_of_head (h : ∀ c ∈ cs.head?, drop c = false) : cs.dropWhile drop = cs := by
  cases cs with
  | nil => rfl
  | cons c cs => rw [List.dropWhile_cons_of_neg (by simp [h c (by simp)])]

/-- A text whose ends are not dropped is not trimmed. -/
theorem trimWith_of_ends (hhead : ∀ c ∈ cs.head?, drop c = false)
    (hlast : ∀ c ∈ cs.getLast?, drop c = false) : trimWith drop cs = cs := by
  rw [trimWith, dropWhile_of_head hhead, dropWhile_of_head (by simpa using hlast),
    List.reverse_reverse]

/-- A text of which nothing is dropped is not trimmed. -/
theorem trimWith_of_forall (h : ∀ c ∈ cs, drop c = false) : trimWith drop cs = cs :=
  trimWith_of_ends (fun c hc => h c (List.mem_of_head? hc))
    (fun c hc => h c (List.mem_of_getLast? hc))

/-- A text that is not trimmed does not end in what would be dropped. -/
theorem getLast?_of_trimWith (h : trimWith drop cs = cs) :
    ∀ c ∈ cs.getLast?, drop c = false := by
  intro c hc
  have hhead := List.head?_dropWhile_not drop (cs.dropWhile drop).reverse
  have hreverse : ((cs.dropWhile drop).reverse.dropWhile drop) = cs.reverse := by
    rw [← List.reverse_inj, List.reverse_reverse]
    exact h
  rw [hreverse, List.head?_reverse, hc] at hhead
  exact hhead

theorem prefix_trimWith (drop : Char → Bool) (cs : List Char) :
    trimWith drop cs <+: cs.dropWhile drop := by
  rw [← List.reverse_suffix, trimWith, List.reverse_reverse]
  exact List.dropWhile_suffix drop

/-- What trimming leaves is a contiguous piece of the text. -/
theorem infix_trimWith (drop : Char → Bool) (cs : List Char) : trimWith drop cs <:+: cs :=
  (prefix_trimWith drop cs).isInfix.trans (List.dropWhile_suffix drop).isInfix

/-- A text that has been trimmed is not trimmed further. -/
theorem trimWith_trimWith : trimWith drop (trimWith drop cs) = trimWith drop cs := by
  refine trimWith_of_ends (fun c hc => ?_) fun c hc => ?_
  · -- it begins as the text does without its front
    obtain ⟨back, hback⟩ := prefix_trimWith drop cs
    have hhead := List.head?_dropWhile_not drop cs
    rw [← hback, List.head?_append, hc] at hhead
    exact hhead
  · have hlast := List.head?_dropWhile_not drop (cs.dropWhile drop).reverse
    rw [trimWith, List.getLast?_reverse] at hc
    rw [hc] at hlast
    exact hlast

/-- What would be dropped makes no difference around a text. -/
theorem trimWith_append {before after : List Char}
    (h : ∀ c ∈ before ++ after, drop c = true) :
    trimWith drop (before ++ (cs ++ after)) = trimWith drop cs := by
  obtain ⟨hbefore, hafter⟩ := List.forall_mem_append.mp h
  have hnone : (after ++ []).dropWhile drop = [] := List.dropWhile_append_of_pos hafter
  rw [List.append_nil] at hnone
  rw [trimWith, List.dropWhile_append_of_pos hbefore, List.dropWhile_append]
  split
  · rename_i hempty
    rw [hnone, trimWith, List.isEmpty_iff.mp hempty]
  · rw [List.reverse_append, List.dropWhile_append_of_pos (by simpa using hafter), trimWith]

/-- Trimming takes off what would be dropped, and nothing else. -/
theorem exists_trimWith_append (drop : Char → Bool) (cs : List Char) :
    ∃ before after, cs = before ++ (trimWith drop cs ++ after) ∧
      ∀ c ∈ before ++ after, drop c = true := by
  refine ⟨cs.takeWhile drop, ((cs.dropWhile drop).reverse.takeWhile drop).reverse, ?_, ?_⟩
  · rw [trimWith, ← List.reverse_append, List.takeWhile_append_dropWhile, List.reverse_reverse,
      List.takeWhile_append_dropWhile]
  · refine List.forall_mem_append.mpr ⟨fun c hc => ?_, fun c hc => ?_⟩
    · exact List.all_eq_true.mp List.all_takeWhile c hc
    · exact List.all_eq_true.mp List.all_takeWhile c (List.mem_reverse.mp hc)

/-- Characters that would be trimmed may be left out before or after. -/
theorem filter_dropWhile {keep : Char → Bool} (h : ∀ c, keep c = false → drop c = true)
    (cs : List Char) : (cs.dropWhile drop).filter keep = (cs.filter keep).dropWhile drop := by
  have hclass : (fun c => !keep c || drop c) = drop := by
    funext c
    cases hkeep : keep c with
    | false => simp [h c hkeep]
    | true => simp
  rw [List.dropWhile_filter, hclass]

theorem filter_trimWith {keep : Char → Bool} (h : ∀ c, keep c = false → drop c = true)
    (cs : List Char) : (trimWith drop cs).filter keep = trimWith drop (cs.filter keep) := by
  rw [trimWith, List.filter_reverse, filter_dropWhile h, List.filter_reverse, filter_dropWhile h,
    trimWith]

theorem trimmed_trimmed (text : String) : trimmed (trimmed text) = trimmed text := by
  rw [trimmed, trimmed, String.toList_ofList, trim, trim, trimWith_trimWith]

/-- A blank is white space. -/
theorem isWhitespace_of_isBlank {c : Char} (h : isBlank c = true) : isWhitespace c = true := by
  simp only [isBlank, Bool.or_eq_true, beq_iff_eq] at h
  rcases h with rfl | rfl <;> decide

end TerminalConfig.Text
