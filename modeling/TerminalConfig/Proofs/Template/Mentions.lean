/-
The variables that a template mentions.

A name is looked up in two places: where a placeholder refers to it, and where it is an
operand of a condition, once as the text of a comparison and once without its exclamation
mark.  A template comes to the same under all scopes that agree on these names.

Every name is found by cutting: the expression out of the template, the condition and the
body out of the expression, the alternatives out of the condition, the operands out of an
alternative.  A cut takes off marks and blanks and never joins what did not stand together,
so a name is a contiguous piece of the template without its escapes.  A variable whose name
is no such piece cannot be told from one that is not there.
-/
import TerminalConfig.Proofs.Template.Literal
import TerminalConfig.Proofs.Text.Split
import TerminalConfig.Proofs.Text.Trim

namespace TerminalConfig

open Text

/-! ### Names -/

/-- The names by which an operand is looked up. -/
def Operand.names (cs : List Char) : List (List Char) :=
  [trimBlanks cs, (plain cs).2]

def Comparison.names : Comparison → List (List Char)
  | .lone operand => Operand.names operand
  | .related _ left right => Operand.names left ++ Operand.names right

def Condition.names (condition : Condition) : List (List Char) :=
  condition.flatten.flatMap Comparison.names

/-- The names by which a template is looked up. -/
def Template.names : Template → List (List Char)
  | .nil => []
  | .literal _ rest => rest.names
  | .reference name rest => name :: rest.names
  | .conditional condition body rest =>
    (Condition.ofChars condition).names ++ (body.names ++ rest.names)

/-! ### Scopes that agree -/

variable {scope scope' : Scope}

/-- Each of the names is the same variable in both scopes, or in none. -/
def AgreeOn (names : List (List Char)) (scope scope' : Scope) : Prop :=
  ∀ name ∈ names, scope.find? (String.ofList name) = scope'.find? (String.ofList name)

theorem agreeOn_append {names more : List (List Char)} :
    AgreeOn (names ++ more) scope scope' ↔ AgreeOn names scope scope' ∧ AgreeOn more scope scope' :=
  List.forall_mem_append

namespace Operand

variable {cs left right : List Char}

theorem number_congr (h : AgreeOn (names cs) scope scope') :
    number scope cs = number scope' cs := by
  have hfound := h (plain cs).2 (by simp [names])
  simp only [number, hfound]

theorem text?_congr (h : AgreeOn (names cs) scope scope') : text? scope cs = text? scope' cs := by
  have hfound := h (trimBlanks cs) (by simp [names])
  unfold text?
  rw [hfound]

theorem equal_congr (hleft : AgreeOn (names left) scope scope')
    (hright : AgreeOn (names right) scope scope') :
    equal scope left right = equal scope' left right := by
  unfold equal
  rw [text?_congr hleft, text?_congr hright, number_congr hleft, number_congr hright]

end Operand

theorem Comparison.holds_congr {c : Comparison} (h : AgreeOn c.names scope scope') :
    c.holds scope = c.holds scope' := by
  cases c with
  | lone operand => rw [holds, holds, Operand.number_congr h]
  | related relation left right =>
      obtain ⟨hleft, hright⟩ := agreeOn_append.mp h
      cases relation <;>
        simp only [holds, Operand.number_congr hleft, Operand.number_congr hright,
          Operand.equal_congr hleft hright]

namespace Condition

theorem anyHolds_congr {cs : List Comparison}
    (h : AgreeOn (cs.flatMap Comparison.names) scope scope') :
    anyHolds scope cs = anyHolds scope' cs := by
  induction cs with
  | nil => rfl
  | cons c cs ih =>
      obtain ⟨hfirst, hrest⟩ := agreeOn_append.mp h
      rw [anyHolds, anyHolds, Comparison.holds_congr hfirst, ih hrest]

theorem holds_congr {condition : Condition} (h : AgreeOn condition.names scope scope') :
    condition.holds scope = condition.holds scope' := by
  induction condition with
  | nil => rfl
  | cons alternatives rest ih =>
      rw [names, List.flatten_cons, List.flatMap_append] at h
      obtain ⟨hfirst, hrest⟩ := agreeOn_append.mp h
      rw [holds, holds, anyHolds_congr hfirst, ih hrest]

end Condition

/-- **A template comes to the same under scopes that agree on its names.** -/
theorem Template.render_congr {t : Template} (h : AgreeOn t.names scope scope') :
    t.render scope = t.render scope' := by
  induction t with
  | nil => rfl
  | literal c rest ih => rw [render, render, ih h]
  | reference name rest ih =>
      obtain ⟨hname, hrest⟩ := List.forall_mem_cons.mp h
      rw [render, render, hname, ih hrest]
  | conditional condition body rest ihBody ihRest =>
      obtain ⟨hcondition, hinner⟩ := agreeOn_append.mp h
      obtain ⟨hbody, hrest⟩ := agreeOn_append.mp hinner
      rw [render, render, Condition.holds_congr hcondition, ihBody hbody, ihRest hrest]

/-! ### Names are pieces of the condition -/

theorem Operand.infix_plain (cs : List Char) : (plain cs).2 <:+: cs := by
  have htrim : trimBlanks cs <:+: cs := infix_trimWith isBlank cs
  unfold plain
  split
  · rename_i rest hrest
    rw [hrest] at htrim
    exact (infix_trimWith isBlank rest).trans ((List.suffix_cons _ _).isInfix.trans htrim)
  · exact htrim

theorem Operand.infix_of_mem_names {cs name : List Char} (h : name ∈ names cs) : name <:+: cs := by
  obtain rfl | hplain := List.mem_cons.mp h
  · exact infix_trimWith isBlank cs
  · rw [List.mem_singleton.mp hplain]
    exact infix_plain cs

theorem Comparison.infix_of_mem_names {cs name : List Char} (h : name ∈ (ofChars cs).names) :
    name <:+: cs := by
  unfold ofChars at h
  generalize [Relation.atMost, .atLeast, .below, .above, .differs, .equals] = relations at h
  induction relations with
  | nil => exact Operand.infix_of_mem_names h
  | cons relation relations ih =>
      rw [ofCharsBy] at h
      split at h
      · rename_i left right hcut
        rw [← append_cut? hcut]
        obtain hleft | hright := List.mem_append.mp h
        · exact (Operand.infix_of_mem_names hleft).trans (List.prefix_append _ _).isInfix
        · have hsuffix := (List.suffix_append relation.spelling right).trans
            (List.suffix_append left _)
          exact (Operand.infix_of_mem_names hright).trans hsuffix.isInfix
      · exact ih h

theorem Condition.infix_of_mem_names {cs name : List Char} (h : name ∈ (ofChars cs).names) :
    name <:+: cs := by
  simp only [names, ofChars, List.mem_flatMap, List.mem_flatten, List.mem_map] at h
  obtain ⟨c, ⟨alternatives, ⟨part, hpart, rfl⟩, hc⟩, hname⟩ := h
  obtain ⟨alternative, halternative, rfl⟩ := List.mem_map.mp hc
  exact (Comparison.infix_of_mem_names hname).trans
    ((infix_of_mem_splitDoubled halternative).trans (infix_of_mem_splitDoubled hpart))

/-! ### Conditions, names and bodies are pieces of the template -/

namespace Placeholder

variable {depth : Nat} {cs e rest name condition body expression : List Char}

/-- A cut further on, with more before it. -/
theorem exists_of_map_cut {cut : Option (List Char × List Char)} {f : List Char → List Char}
    (h : (cut.map fun (e, rest) => (f e, rest)) = some (e, rest)) :
    ∃ before, cut = some (before, rest) ∧ f before = e := by
  obtain ⟨⟨before, after⟩, hcut, heq⟩ := Option.map_eq_some_iff.mp h
  cases heq
  exact ⟨before, hcut, rfl⟩

/-- An expression stands in its template as it stands by itself. -/
theorem unescape_of_cutClosing? (h : cutClosing? depth cs = some (e, rest)) :
    unescape cs = unescape e ++ '}' :: unescape rest := by
  fun_induction cutClosing? depth cs generalizing e with
  | case1 => cases h
  | case2 => cases h
  | case3 depth c cs ih =>
      obtain ⟨before, hcut, rfl⟩ := exists_of_map_cut (f := fun e => '\\' :: c :: e) h
      rw [unescape, unescape, ih hcut]
      rfl
  | case4 depth cs ih =>
      obtain ⟨before, hcut, rfl⟩ := exists_of_map_cut h
      rw [unescape_cons_of_ne (by decide), unescape_cons_of_ne (by decide), ih hcut]
      rfl
  | case5 cs =>
      cases h
      exact unescape_cons_of_ne (by decide) _
  | case6 cs depth ih =>
      obtain ⟨before, hcut, rfl⟩ := exists_of_map_cut h
      rw [unescape_cons_of_ne (by decide), unescape_cons_of_ne (by decide), ih hcut]
      rfl
  | case7 depth c cs hlone hescape _ _ ih =>
      obtain ⟨before, hcut, rfl⟩ := exists_of_map_cut h
      have hc := ne_backslash hlone hescape
      rw [unescape_cons_of_ne hc, unescape_cons_of_ne hc, ih hcut]
      rfl

/-- What stands inside a placeholder and behind it is each a piece of what it begins. -/
theorem infix_of_cutClosing? (h : cutClosing? depth cs = some (e, rest)) :
    unescape e <:+: unescape ('{' :: cs) ∧ unescape rest <:+: unescape ('{' :: cs) := by
  have hwhole : unescape ('{' :: cs) = '{' :: (unescape e ++ '}' :: unescape rest) := by
    rw [unescape_cons_of_ne (by decide), unescape_of_cutClosing? h]
  have hinner := List.suffix_cons '{' (unescape e ++ '}' :: unescape rest)
  rw [hwhole]
  exact ⟨(List.prefix_append _ _).isInfix.trans hinner.isInfix,
    (((List.suffix_cons _ _).trans (List.suffix_append _ _)).trans hinner).isInfix⟩

/-- A condition stands before the colon, its escapes resolved, and the body behind it. -/
theorem unescape_of_cutColon? (h : cutColon? depth cs = some (condition, body)) :
    unescape cs = condition ++ ':' :: unescape body := by
  fun_induction cutColon? depth cs generalizing condition with
  | case1 => cases h
  | case2 => cases h
  | case3 depth c cs ih =>
      obtain ⟨before, hcut, rfl⟩ := exists_of_map_cut h
      rw [unescape, ih hcut]
      rfl
  | case4 depth cs ih =>
      obtain ⟨before, hcut, rfl⟩ := exists_of_map_cut h
      rw [unescape_cons_of_ne (by decide), ih hcut]
      rfl
  | case5 depth cs ih =>
      obtain ⟨before, hcut, rfl⟩ := exists_of_map_cut h
      rw [unescape_cons_of_ne (by decide), ih hcut]
      rfl
  | case6 cs =>
      cases h
      exact unescape_cons_of_ne (by decide) _
  | case7 cs depth ih =>
      obtain ⟨before, hcut, rfl⟩ := exists_of_map_cut h
      rw [unescape_cons_of_ne (by decide), ih hcut]
      rfl
  | case8 depth c cs hlone hescape _ _ _ ih =>
      obtain ⟨before, hcut, rfl⟩ := exists_of_map_cut h
      rw [unescape_cons_of_ne (ne_backslash hlone hescape), ih hcut]
      rfl

/-- Blanks have no escapes. -/
theorem unescape_dropWhile_isBlank (cs : List Char) :
    unescape (cs.dropWhile isBlank) <:+ unescape cs := by
  induction cs with
  | nil => rfl
  | cons c cs ih =>
      by_cases hc : isBlank c = true
      · have hne : c ≠ '\\' := by
          rintro rfl
          exact absurd hc (by decide)
        rw [List.dropWhile_cons_of_pos hc, unescape_cons_of_ne hne]
        exact ih.trans (List.suffix_cons _ _)
      · rw [List.dropWhile_cons_of_neg hc]

theorem infix_of_reference (h : ofChars expression = .reference name) :
    name <:+: unescape expression := by
  unfold ofChars at h
  split at h
  · split at h <;> cases h
  · split at h
    · cases h
    · cases h
      unfold nameOf
      dsimp only
      split
      · exact List.infix_rfl
      · exact infix_trimWith isBlank _

theorem infix_of_conditional (h : ofChars expression = .conditional condition body) :
    condition <:+: unescape expression ∧ unescape body <:+: unescape expression := by
  unfold ofChars at h
  split at h
  · rename_i cs hcs
    split at h
    · rename_i hcut
      cases h
      have hblanks := unescape_dropWhile_isBlank expression
      rw [hcs, unescape_cons_of_ne (by decide), unescape_of_cutColon? hcut] at hblanks
      have hinner := (List.suffix_cons _ _).trans hblanks
      exact ⟨(List.prefix_append _ _).isInfix.trans hinner.isInfix,
        (((List.suffix_cons _ _).trans (List.suffix_append _ _)).trans hinner).isInfix⟩
    · cases h
  · split at h <;> cases h

end Placeholder

/-- **Every name of a template is a contiguous piece of it**, once its escapes are resolved. -/
theorem Template.infix_of_mem_names {cs name : List Char} (h : name ∈ (ofChars cs).names) :
    name <:+: unescape cs := by
  fun_induction ofChars cs with
  | case1 => exact absurd h List.not_mem_nil
  | case2 => exact absurd h List.not_mem_nil
  | case3 c cs ih =>
      rw [unescape]
      exact (ih h).trans (List.suffix_cons _ _).isInfix
  | case4 => exact absurd h List.not_mem_nil
  | case5 cs expression rest hcut _ _ ih =>
      exact (ih h).trans (Placeholder.infix_of_cutClosing? hcut).2
  | case6 cs expression rest hcut _ reference hread ih =>
      obtain ⟨hinside, hbehind⟩ := Placeholder.infix_of_cutClosing? hcut
      obtain rfl | hrest := List.mem_cons.mp h
      · exact (Placeholder.infix_of_reference hread).trans hinside
      · exact (ih hrest).trans hbehind
  | case7 cs expression rest hcut _ condition body hread _ ihBody ihRest =>
      obtain ⟨hinside, hbehind⟩ := Placeholder.infix_of_cutClosing? hcut
      obtain ⟨hcondition, hbody⟩ := Placeholder.infix_of_conditional hread
      rw [names, List.mem_append, List.mem_append] at h
      obtain hname | hname | hname := h
      · exact (Condition.infix_of_mem_names hname).trans (hcondition.trans hinside)
      · exact (ihBody hname).trans (hbody.trans hinside)
      · exact (ihRest hname).trans hbehind
  | case8 c cs hlone hescape _ ih =>
      rw [unescape_cons_of_ne (ne_backslash hlone hescape)]
      exact (ih h).trans (List.suffix_cons _ _).isInfix

/-! ### Interpolation -/

/-- **A template depends only on the variables that it mentions.**  Two scopes that differ in
nothing but what `name` is, or whether it is anything, come to the same text and the same fault,
or to the same refusal, if the name is no contiguous piece of the template without its control
characters and escapes. -/
theorem interpolate_of_not_mentioned {template name : String}
    (hmention : ¬name.toList <:+: unescape (template.toList.filter fun c => !isControl c))
    (hagree : ∀ other, other ≠ name → scope.find? other = scope'.find? other) :
    interpolate template scope = interpolate template scope' := by
  have hnames : AgreeOn (Template.ofChars (template.toList.filter fun c => !isControl c)).names
      scope scope' := by
    intro key hkey
    refine hagree _ ?_
    rintro rfl
    rw [String.toList_ofList] at hmention
    exact hmention (Template.infix_of_mem_names hkey)
  rw [interpolate, interpolate, Template.render_congr hnames]

/-- A conditional inside a conditional, with an operand that is negated, an escape in a name, and
a variable that is not there.  The names `a` and `b` are mentioned, and `ab` is not. -/
theorem interpolate_of_not_mentioned_nested :
    let template := "\x7b?!a == 0 && a < 2:\x7b?b == b:[\x7b\\b\x7d\x7d\x7d\x7bc\x7d"
    let scope := Scope.ofVariables [⟨"a", .int32 1⟩, ⟨"b", .text "x"⟩, ⟨"ab", .text "y"⟩]
    let scope' := Scope.ofVariables [⟨"a", .int32 1⟩, ⟨"b", .text "x"⟩]
    (∀ other, other ≠ "ab" → scope.find? other = scope'.find? other) ∧
      scope.find? "ab" ≠ scope'.find? "ab" ∧
      interpolate template scope = interpolate template scope' ∧
      interpolate template scope' = .ok ⟨"[x", some (.undefinedVariable "c")⟩ := by
  intro template scope scope'
  have hmention : ¬"ab".toList <:+: unescape (template.toList.filter fun c => !isControl c) := by
    decide +kernel
  have hagree : ∀ other, other ≠ "ab" → scope.find? other = scope'.find? other := by
    intro other hother
    have hbeq : (other == "ab") = false := beq_false_of_ne hother
    simp [scope, scope', Scope.ofVariables, Scope.ofPairs, Scope.insert, Scope.put, Scope.find?,
      List.lookup_cons, hbeq]
  exact ⟨hagree, by decide +kernel, interpolate_of_not_mentioned hmention hagree,
    eq_ok_of_toOption (by decide +kernel)⟩

end TerminalConfig
