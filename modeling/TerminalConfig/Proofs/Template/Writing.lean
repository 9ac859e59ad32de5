/-
Templates as they are written.

A template is written with a backslash before every character that would otherwise mean
something where it stands.  In a condition that is also the colon, which would end it,
and in a name a question mark at the front, which would make it a condition.

Writing is put against reading.  The three loops of the reader look at one text at
different depths: one finds the brace that closes a placeholder, one the colon that ends
a condition, and one resolves the escapes of a name.  Each of them passes a written part
as a whole, and the theorem for a template is an induction on the template that joins
these facts.
-/
import TerminalConfig.Proofs.Template.Literal
import TerminalConfig.Proofs.Text.Escape
import TerminalConfig.Proofs.Text.Trim

namespace TerminalConfig

open Text

/-! ### Writing -/

namespace Template

/-- What needs a backslash in a template and in a name. -/
def isMark (c : Char) : Bool :=
  c == '\\' || c == '{' || c == '}'

/-- What needs a backslash in a condition. -/
def isConditionMark (c : Char) : Bool :=
  isMark c || c == ':'

/-- A name as it is written between braces. -/
def writtenName : List Char → List Char
  | '?' :: cs => '\\' :: '?' :: escape isMark cs
  | cs => escape isMark cs

/-- A template as it is written. -/
def written : Template → List Char
  | .nil => []
  | .literal c rest => escape isMark [c] ++ rest.written
  | .reference name rest => '{' :: (writtenName name ++ '}' :: rest.written)
  | .conditional condition body rest =>
    '{' :: '?' :: (escape isConditionMark condition ++ ':' ::
      (body.written ++ '}' :: rest.written))

/-- The templates that can be written.  A control character would be left out, and blanks
around a name, or a name that is empty, would not count. -/
def Writable : Template → Prop
  | .nil => True
  | .literal c rest => isControl c = false ∧ rest.Writable
  | .reference name rest =>
    name ≠ [] ∧ (∀ c ∈ name, isControl c = false) ∧ (∀ c ∈ name.head?, isBlank c = false) ∧
      (∀ c ∈ name.getLast?, isBlank c = false) ∧ rest.Writable
  | .conditional condition body rest =>
    (∀ c ∈ condition, isControl c = false) ∧ body.Writable ∧ rest.Writable

end Template

/-! ### Finding the brace that closes

What is written has its own braces in pairs, so the search for the closing brace passes
it at any depth and keeps it as it is, escapes included.
-/

namespace Placeholder

open Template

/-- The search for a closing brace passes this part of a text. -/
def Balanced (part : List Char) : Prop :=
  ∀ (depth : Nat) (tail : List Char), cutClosing? depth (part ++ tail) =
    (cutClosing? depth tail).map fun (e, rest) => (part ++ e, rest)

namespace Balanced

theorem nil : Balanced [] := by
  intro depth tail
  simp

theorem append {p q : List Char} (hp : Balanced p) (hq : Balanced q) : Balanced (p ++ q) := by
  intro depth tail
  rw [List.append_assoc, hp, hq]
  simp [Function.comp_def]

theorem escaped (c : Char) : Balanced ['\\', c] := by
  intro depth tail
  rw [List.cons_append, List.singleton_append, cutClosing?]
  rfl

theorem plain {c : Char} (h : isMark c = false) : Balanced [c] := by
  intro depth tail
  rw [List.singleton_append, cutClosing?.eq_def]
  split <;> simp_all [isMark]

/-- Braces around a balanced part are a pair. -/
theorem braces {p : List Char} (hp : Balanced p) : Balanced ('{' :: (p ++ ['}'])) := by
  intro depth tail
  rw [List.cons_append, List.append_assoc, List.singleton_append, cutClosing?, hp, cutClosing?]
  simp [Function.comp_def]

/-- A balanced part is all that stands before the brace that closes it. -/
theorem cutClosing?_eq {p : List Char} (hp : Balanced p) (tail : List Char) :
    cutClosing? 0 (p ++ '}' :: tail) = some (p, tail) := by
  rw [hp, cutClosing?]
  simp

end Balanced

theorem balanced_escape {special : Char → Bool} (hspecial : ∀ c, isMark c → special c)
    (cs : List Char) : Balanced (escape special cs) := by
  induction cs with
  | nil => exact Balanced.nil
  | cons c cs ih =>
      by_cases hc : special c = true
      · rw [escape_cons_of_special hc]
        exact (Balanced.escaped c).append ih
      · have hplain : isMark c = false := Bool.eq_false_iff.mpr fun hmark => hc (hspecial c hmark)
        rw [escape_cons_of_plain (by simpa using hc)]
        exact (Balanced.plain hplain).append ih

theorem balanced_writtenName (name : List Char) : Balanced (writtenName name) := by
  unfold writtenName
  split
  · exact (Balanced.escaped '?').append (balanced_escape (fun _ h => h) _)
  · exact balanced_escape (fun _ h => h) _

/-- A condition, its colon and a balanced body. -/
theorem balanced_condition (condition : List Char) {body : List Char} (hbody : Balanced body) :
    Balanced ('?' :: (escape isConditionMark condition ++ ':' :: body)) := by
  have hmarks : ∀ c, isMark c → isConditionMark c := by
    intro c hc
    simp [isConditionMark, hc]
  have hquestion : Balanced ['?'] := Balanced.plain (by decide)
  have hcolon : Balanced [':'] := Balanced.plain (by decide)
  exact hquestion.append ((balanced_escape hmarks condition).append (hcolon.append hbody))

theorem balanced_written (t : Template) : Balanced t.written := by
  induction t with
  | nil => exact Balanced.nil
  | literal c rest ih => exact (balanced_escape (fun _ h => h) [c]).append ih
  | reference name rest ih =>
      have h := (balanced_writtenName name).braces.append ih
      simpa [written] using h
  | conditional condition body rest ihBody ihRest =>
      have h := (balanced_condition condition ihBody).braces.append ihRest
      simpa [written] using h

/-! ### Finding the colon -/

theorem cutColon?_cons_of_plain {c : Char} (h : isConditionMark c = false) (depth : Nat)
    (cs : List Char) :
    cutColon? depth (c :: cs) =
      (cutColon? depth cs).map fun (e, rest) => (c :: e, rest) := by
  rw [cutColon?.eq_def]
  split <;> simp_all [isConditionMark, isMark]

/-- The colon after a condition is found, and the condition is read as it was. -/
theorem cutColon?_escape (condition body : List Char) :
    cutColon? 0 (escape isConditionMark condition ++ ':' :: body) = some (condition, body) := by
  induction condition with
  | nil => rfl
  | cons c cs ih =>
      by_cases hc : isConditionMark c = true
      · rw [escape_cons_of_special hc, List.cons_append, List.cons_append, cutColon?, ih]
        rfl
      · rw [escape_cons_of_plain (by simpa using hc), List.cons_append,
          cutColon?_cons_of_plain (by simpa using hc), ih]
        rfl

/-! ### Reading a placeholder -/

theorem unescape_writtenName (name : List Char) : unescape (writtenName name) = name := by
  unfold writtenName
  split
  · rw [unescape, unescape_escape (by decide)]
  · exact unescape_escape (by decide) _

/-- A written name begins neither with a blank nor with a question mark. -/
theorem writtenName_head {name : List Char} (hne : name ≠ [])
    (hhead : ∀ c ∈ name.head?, isBlank c = false) :
    ∃ c cs, writtenName name = c :: cs ∧ isBlank c = false ∧ c ≠ '?' := by
  unfold writtenName
  split
  · exact ⟨'\\', _, rfl, by decide, by decide⟩
  · rename_i hquestion
    obtain ⟨c, cs, rfl⟩ := List.exists_cons_of_ne_nil hne
    by_cases hc : isMark c = true
    · exact ⟨'\\', _, escape_cons_of_special hc cs, by decide, by decide⟩
    · refine ⟨c, _, escape_cons_of_plain (by simpa using hc) cs, hhead c (by simp), ?_⟩
      rintro rfl
      exact hquestion cs rfl

/-- A written name is read as a reference to it. -/
theorem ofChars_writtenName {name : List Char} (hne : name ≠ [])
    (hhead : ∀ c ∈ name.head?, isBlank c = false)
    (hlast : ∀ c ∈ name.getLast?, isBlank c = false) :
    ofChars (writtenName name) = .reference name := by
  obtain ⟨c, cs, hname, hblank, hquestion⟩ := writtenName_head hne hhead
  have hread : nameOf (writtenName name) = name := by
    rw [nameOf, unescape_writtenName, trimBlanks, trimWith_of_ends hhead hlast, if_neg hne]
  have hdrop : (writtenName name).dropWhile isBlank = writtenName name := by
    rw [hname, List.dropWhile_cons_of_neg (by simp [hblank])]
  rw [ofChars, hdrop, hread, hname]
  split
  · rename_i heq
    exact absurd (List.cons.inj heq).1 hquestion
  · simp

/-- A written condition and what follows its colon are read as a conditional. -/
theorem ofChars_condition (condition body : List Char) :
    ofChars ('?' :: (escape isConditionMark condition ++ ':' :: body)) =
      .conditional condition body := by
  rw [ofChars, List.dropWhile_cons_of_neg (by decide)]
  simp only [cutColon?_escape]

end Placeholder

/-! ### Reading a template -/

namespace Template

theorem ofChars_escape_singleton (c : Char) (cs : List Char) :
    ofChars (escape isMark [c] ++ cs) = .literal c (ofChars cs) := by
  by_cases hc : isMark c = true
  · rw [escape_cons_of_special hc, List.cons_append, List.cons_append, ofChars]
    rfl
  · have hescape : c ≠ '\\' := by
      rintro rfl
      exact hc rfl
    have hbrace : c ≠ '{' := by
      rintro rfl
      exact hc rfl
    rw [escape_cons_of_plain (by simpa using hc), List.cons_append,
      ofChars_cons_of_ne hescape hbrace]
    rfl

/-- A placeholder that is closed is read by itself, and so is what follows it. -/
theorem ofChars_placeholder {expression rest tail : List Char}
    (hcut : Placeholder.cutClosing? 0 tail = some (expression, rest)) :
    ofChars ('{' :: tail) =
      match Placeholder.ofChars expression with
      | .empty => ofChars rest
      | .reference name => .reference name (ofChars rest)
      | .conditional condition body => .conditional condition (ofChars body) (ofChars rest) := by
  rw [ofChars]
  split
  · simp_all
  · rename_i heq
    rw [hcut] at heq
    cases heq
    split <;> simp_all

theorem ofChars_reference {expression name rest tail : List Char}
    (hcut : Placeholder.cutClosing? 0 tail = some (expression, rest))
    (hread : Placeholder.ofChars expression = .reference name) :
    ofChars ('{' :: tail) = .reference name (ofChars rest) := by
  rw [ofChars_placeholder hcut, hread]

theorem ofChars_conditional {expression condition body rest tail : List Char}
    (hcut : Placeholder.cutClosing? 0 tail = some (expression, rest))
    (hread : Placeholder.ofChars expression = .conditional condition body) :
    ofChars ('{' :: tail) = .conditional condition (ofChars body) (ofChars rest) := by
  rw [ofChars_placeholder hcut, hread]

/-- **Reading gives back the template that was written.** -/
theorem ofChars_written {t : Template} (h : t.Writable) : ofChars t.written = t := by
  induction t with
  | nil => rw [written, ofChars]
  | literal c rest ih =>
      rw [written, ofChars_escape_singleton, ih h.2]
  | reference name rest ih =>
      obtain ⟨hne, -, hhead, hlast, hrest⟩ := h
      have hcut := (Placeholder.balanced_writtenName name).cutClosing?_eq rest.written
      rw [written, ofChars_reference hcut (Placeholder.ofChars_writtenName hne hhead hlast),
        ih hrest]
  | conditional condition body rest ihBody ihRest =>
      obtain ⟨-, hbody, hrest⟩ := h
      have hcut := (Placeholder.balanced_condition condition
        (Placeholder.balanced_written body)).cutClosing?_eq rest.written
      have hread := Placeholder.ofChars_condition condition body.written
      have hwritten : (Template.conditional condition body rest).written =
          '{' :: ('?' :: (escape isConditionMark condition ++ ':' :: body.written) ++
            '}' :: rest.written) := by
        simp [written]
      rw [hwritten, ofChars_conditional hcut hread, ihBody hbody, ihRest hrest]

/-- What is written has no control characters, so none are left out of it. -/
theorem written_filter {t : Template} (h : t.Writable) :
    t.written.filter (fun c => !isControl c) = t.written := by
  have hescape : ∀ {special : Char → Bool} {cs : List Char},
      (∀ c ∈ cs, isControl c = false) → ∀ c ∈ escape special cs, isControl c = false := by
    intro special cs hcs c hc
    rcases mem_escape hc with rfl | hc
    · decide
    · exact hcs c hc
  have hname : ∀ {name : List Char}, (∀ c ∈ name, isControl c = false) →
      ∀ c ∈ writtenName name, isControl c = false := by
    intro name hn c hc
    unfold writtenName at hc
    split at hc
    · rcases List.mem_cons.mp hc with rfl | hc
      · decide
      · rcases List.mem_cons.mp hc with rfl | hc
        · decide
        · exact hescape (fun c hc => hn c (List.mem_cons_of_mem _ hc)) c hc
    · exact hescape hn c hc
  have hwritten : ∀ c ∈ t.written, isControl c = false := by
    induction t with
    | nil => simp [written]
    | literal c rest ih =>
        intro d hd
        rcases List.mem_append.mp hd with hd | hd
        · exact hescape (by simpa using h.1) d hd
        · exact ih h.2 d hd
    | reference name rest ih =>
        obtain ⟨-, hcontrol, -, -, hrest⟩ := h
        simp only [written, List.mem_cons, List.mem_append]
        rintro d (rfl | hd | rfl | hd)
        · decide
        · exact hname hcontrol d hd
        · decide
        · exact ih hrest d hd
    | conditional condition body rest ihBody ihRest =>
        obtain ⟨hcontrol, hbody, hrest⟩ := h
        simp only [written, List.mem_cons, List.mem_append]
        rintro d (rfl | rfl | hd | rfl | hd | rfl | hd)
        · decide
        · decide
        · exact hescape hcontrol d hd
        · decide
        · exact ihBody hbody d hd
        · decide
        · exact ihRest hrest d hd
  exact List.filter_eq_self.mpr fun c hc => by simp [hwritten c hc]

end Template

end TerminalConfig
