/-
The numeral that a text begins with is the longest one.

The rule that cuts a numeral out tries the forms one after another and takes each part as far as
it goes, and it never goes back.  That this finds the longest numeral has two reasons.

  * A part that ends early leaves a digit or a point behind, with which no exponent begins.  So
    only the digits that go furthest can have an exponent, and then both go furthest.
  * The forms hardly overlap.  A decimal numeral has no `x`, so of what begins a hexadecimal one
    it takes no more than the zero, and no name begins with a digit or a point.

So each part is shown to hold every part of its kind that the text begins with, and then the
numeral to be as long as any.  This is so for texts of all scripts.
-/
import TerminalConfig.Proofs.Number.Leading

namespace TerminalConfig

open Text

namespace Numeral

/-! ### Runs, signs and exponents -/

theorem isPrefix_takeWhile {p : Char → Bool} {ds cs : List Char} (hds : ∀ d ∈ ds, p d = true)
    (h : ds <+: cs) : ds <+: cs.takeWhile p := by
  obtain ⟨rest, rfl⟩ := h
  rw [List.takeWhile_append_of_pos hds]
  exact List.prefix_append _ _

theorem writtenSign_append {s text : List Char} (hs : IsSign s)
    (htext : ∀ c ∈ text.head?, c ≠ '+' ∧ c ≠ '-') : writtenSign (s ++ text) = (s, text) := by
  rcases hs with rfl | rfl | rfl
  · cases text with
    | nil => rfl
    | cons c text =>
        obtain ⟨hplus, hminus⟩ := htext c rfl
        simp [writtenSign, hplus, hminus]
  · rfl
  · rfl

theorem append_writtenSign (cs : List Char) : (writtenSign cs).1 ++ (writtenSign cs).2 = cs := by
  unfold writtenSign
  split
  · rfl
  · split <;> rfl

/-- An exponent is taken as far as it goes. -/
theorem Exponent.isPrefix_writtenExponent {mark : Char} {e cs : List Char} (h : Exponent mark e)
    (hcs : e <+: cs) : e <+: writtenExponent mark cs := by
  cases h with
  | none => exact List.nil_prefix
  | @some c s ds hmark hs hds hne =>
      obtain ⟨rest, rfl⟩ := hcs
      have hhead : ∀ d ∈ (ds ++ rest).head?, d ≠ '+' ∧ d ≠ '-' := by
        intro d hd
        rw [List.head?_append_of_ne_nil _ hne] at hd
        exact not_sign_of_isDecimalDigit (hds d (List.mem_of_head? hd))
      have htake : (ds ++ rest).takeWhile isDecimalDigit = ds ++ rest.takeWhile isDecimalDigit :=
        List.takeWhile_append_of_pos hds
      rw [List.cons_append, List.append_assoc, writtenExponent, if_pos hmark,
        writtenSign_append hs hhead]
      dsimp only
      rw [htake]
      split
      · rename_i hnil
        exact absurd (List.append_eq_nil_iff.mp hnil).1 hne
      · rw [← List.append_assoc, ← List.cons_append]
        exact List.prefix_append _ _

theorem writtenExponent_isPrefix (mark : Char) (cs : List Char) :
    writtenExponent mark cs <+: cs := by
  unfold writtenExponent
  split
  · exact List.nil_prefix
  · rename_i c cs
    split
    · dsimp only
      split
      · exact List.nil_prefix
      · have htake : (writtenSign cs).1 ++ (writtenSign cs).2.takeWhile isDecimalDigit <+:
            (writtenSign cs).1 ++ (writtenSign cs).2 :=
          (List.prefix_append_right_inj _).mpr (List.takeWhile_prefix _)
        rw [append_writtenSign] at htake
        exact (List.prefix_cons_inj _).mpr htake
    · exact List.nil_prefix

/-! ### Digits with a point -/

theorem append_writtenDigits (isDigit : Char → Bool) (cs : List Char) :
    (writtenDigits isDigit cs).1 ++ (writtenDigits isDigit cs).2 = cs := by
  have hcs : cs.takeWhile isDigit ++ cs.dropWhile isDigit = cs := List.takeWhile_append_dropWhile
  unfold writtenDigits
  dsimp only
  split
  · rename_i more hmore
    split
    · rfl
    · dsimp only
      rw [List.append_assoc, List.cons_append, List.takeWhile_append_dropWhile, ← hmore, hcs]
  · exact hcs

theorem writtenDigits_of_point {isDigit : Char → Bool} {cs more : List Char}
    (h : cs.dropWhile isDigit = '.' :: more) :
    writtenDigits isDigit cs =
      if (cs.takeWhile isDigit).isEmpty && (more.takeWhile isDigit).isEmpty then ([], cs)
      else (cs.takeWhile isDigit ++ '.' :: more.takeWhile isDigit, more.dropWhile isDigit) := by
  rw [writtenDigits, h]
  rfl

/-- Digits with a point are taken as far as they go. -/
theorem Digits.isPrefix_writtenDigits {isDigit : Char → Bool} (hpoint : isDigit '.' = false)
    {digits cs : List Char} (h : Digits isDigit digits) (hcs : digits <+: cs) :
    digits <+: (writtenDigits isDigit cs).1 := by
  obtain ⟨rest, rfl⟩ := hcs
  cases h with
  | whole hds hne =>
      have htake := isPrefix_takeWhile hds (List.prefix_append digits rest)
      have hsome : (digits ++ rest).takeWhile isDigit ≠ [] := htake.ne_nil hne
      unfold writtenDigits
      dsimp only
      split
      · split
        · rename_i hempty
          simp [hsome] at hempty
        · exact htake.trans (List.prefix_append _ _)
      · exact htake
  | @pointed whole part hwhole hpart hne =>
      have htake : (whole ++ '.' :: part ++ rest).takeWhile isDigit = whole := by
        rw [List.append_assoc, List.takeWhile_append_of_pos hwhole]
        simp [hpoint]
      have hdrop : (whole ++ '.' :: part ++ rest).dropWhile isDigit = '.' :: (part ++ rest) := by
        rw [List.append_assoc, List.dropWhile_append_of_pos hwhole]
        simp [hpoint]
      have hpart := isPrefix_takeWhile hpart (List.prefix_append part rest)
      have hsome : ¬(whole.isEmpty && ((part ++ rest).takeWhile isDigit).isEmpty) = true := by
        rw [Bool.and_eq_true, List.isEmpty_iff, List.isEmpty_iff, not_and_or]
        exact hne.imp_right hpart.ne_nil
      rw [writtenDigits_of_point hdrop, htake, if_neg hsome]
      exact (List.prefix_append_right_inj _).mpr ((List.prefix_cons_inj _).mpr hpart)

/-- Where the digits end early, no exponent begins.  So an exponent stands behind all digits, and
is taken as far as it goes too. -/
theorem isPrefix_digits_exponent {isDigit : Char → Bool} {mark : Char}
    (hpoint : isDigit '.' = false)
    (hmark : ∀ c, isLetter mark c = true → isDigit c = false ∧ c ≠ '.') {digits e cs : List Char}
    (hdigits : Digits isDigit digits) (he : Exponent mark e) (h : digits ++ e <+: cs) :
    digits ++ e <+:
      (writtenDigits isDigit cs).1 ++ writtenExponent mark (writtenDigits isDigit cs).2 := by
  have hcs := append_writtenDigits isDigit cs
  obtain ⟨more, hmore⟩ :=
    hdigits.isPrefix_writtenDigits hpoint ((List.prefix_append digits e).trans h)
  rw [← hcs, ← hmore, List.append_assoc, List.prefix_append_right_inj] at h
  rw [← hmore, List.append_assoc, List.prefix_append_right_inj]
  cases more with
  | nil => exact he.isPrefix_writtenExponent h
  | cons c more =>
      cases e with
      | nil => exact List.nil_prefix
      | cons d e =>
          obtain ⟨rfl, -⟩ := List.cons_prefix_cons.mp h
          have htaken : Digits isDigit (writtenDigits isDigit cs).1 :=
            digits_writtenDigits rfl (by rw [← hmore]; simp)
          obtain ⟨hdigit, hne⟩ := hmark d (he.isLetter_head d rfl)
          have hd := htaken.of_mem d (by rw [← hmore]; simp)
          simp [hdigit, hne] at hd

/-! ### Each form by itself -/

theorem writtenHexadecimal?_isPrefix {cs text : List Char}
    (h : writtenHexadecimal? cs = some text) : text <+: cs := by
  unfold writtenHexadecimal? at h
  split at h
  · rename_i x cs
    split at h
    · split at h
      · cases h
      · rename_i digits rest _ hdigits
        cases h
        have hcs := append_writtenDigits isHexDigit cs
        rw [hdigits] at hcs
        rw [List.prefix_cons_inj, List.prefix_cons_inj, ← hcs]
        exact (List.prefix_append_right_inj _).mpr (writtenExponent_isPrefix 'p' rest)
    · cases h
  · cases h

theorem writtenDecimal?_isPrefix {cs text : List Char} (h : writtenDecimal? cs = some text) :
    text <+: cs := by
  unfold writtenDecimal? at h
  split at h
  · cases h
  · rename_i digits rest _ hdigits
    cases h
    have hcs := append_writtenDigits isDecimalDigit cs
    rw [hdigits] at hcs
    rw [← hcs]
    exact (List.prefix_append_right_inj _).mpr (writtenExponent_isPrefix 'e' rest)

theorem append_of_spelled? {word cs written rest : List Char}
    (h : spelled? word cs = some (written, rest)) : written ++ rest = cs := by
  induction word generalizing cs written with
  | nil =>
      cases h
      rfl
  | cons letter word ih =>
      cases cs with
      | nil => cases h
      | cons c cs =>
          rw [spelled?] at h
          split at h
          · obtain ⟨⟨more, rest'⟩, hmore, heq⟩ := Option.map_eq_some_iff.mp h
            cases heq
            rw [List.cons_append, ih hmore]
          · cases h

theorem writtenWord?_isPrefix {cs text : List Char} (h : writtenWord? cs = some text) :
    text <+: cs := by
  unfold writtenWord? at h
  split at h
  · rename_i short rest hshort
    rw [← append_of_spelled? hshort]
    split at h
    · rename_i more rest hmore
      cases h
      rw [← append_of_spelled? hmore, ← List.append_assoc]
      exact List.prefix_append _ _
    · cases h
      exact List.prefix_append _ _
  · obtain ⟨⟨written, rest⟩, hwritten, rfl⟩ := Option.map_eq_some_iff.mp h
    rw [← append_of_spelled? hwritten]
    exact List.prefix_append _ _

/-- What a text begins with is a part of it. -/
theorem leading?_isPrefix {cs : List Char} {n : Numeral} (h : leading? cs = some n) :
    n.text <+: cs := by
  have hcs := append_writtenSign cs
  have hsign {text : List Char} (htext : text <+: (writtenSign cs).2) :
      (writtenSign cs).1 ++ text <+: cs := by
    have hboth := (List.prefix_append_right_inj (writtenSign cs).1).mpr htext
    rwa [hcs] at hboth
  unfold leading? at h
  dsimp only at h
  split at h
  · rename_i htext
    cases h
    exact hsign (writtenHexadecimal?_isPrefix htext)
  · split at h
    · rename_i htext
      cases h
      exact hsign (writtenDecimal?_isPrefix htext)
    · obtain ⟨text, htext, rfl⟩ := Option.map_eq_some_iff.mp h
      exact hsign (writtenWord?_isPrefix htext)

/-- A hexadecimal numeral is taken as far as it goes. -/
theorem exists_writtenHexadecimal? {cs text : List Char} (h : Spelling .hexadecimal text)
    (hcs : text <+: cs) : ∃ taken, writtenHexadecimal? cs = some taken ∧ text <+: taken := by
  cases h with
  | @hexadecimal x digits e hx hdigits he =>
      obtain ⟨rest, rfl⟩ := hcs
      have hprefix := List.prefix_append (digits ++ e) rest
      have htaken := isPrefix_digits_exponent (by decide) (fun _ => not_hexDigit_of_mark) hdigits he
        hprefix
      have hsome := (hdigits.isPrefix_writtenDigits (by decide)
        ((List.prefix_append digits e).trans hprefix)).ne_nil hdigits.ne_nil
      rw [List.cons_append, List.cons_append, writtenHexadecimal?, if_pos hx]
      split
      · rename_i hnil
        exact absurd (congrArg Prod.fst hnil) hsome
      · rename_i hwritten
        rw [hwritten] at htaken
        exact ⟨_, rfl, (List.prefix_cons_inj _).mpr ((List.prefix_cons_inj _).mpr htaken)⟩

/-- A decimal numeral is taken as far as it goes. -/
theorem exists_writtenDecimal? {cs text : List Char} (h : Spelling .decimal text)
    (hcs : text <+: cs) : ∃ taken, writtenDecimal? cs = some taken ∧ text <+: taken := by
  cases h with
  | @decimal digits e hdigits he =>
      have hmark {c : Char} (hc : isLetter 'e' c = true) : isDecimalDigit c = false ∧ c ≠ '.' :=
        ⟨(not_decimalDigit_of_mark hc).1, (not_decimalDigit_of_mark hc).2.1⟩
      have htaken := isPrefix_digits_exponent (by decide) (fun _ => hmark) hdigits he hcs
      have hsome := (hdigits.isPrefix_writtenDigits (by decide)
        ((List.prefix_append digits e).trans hcs)).ne_nil hdigits.ne_nil
      rw [writtenDecimal?]
      split
      · rename_i hnil
        exact absurd (congrArg Prod.fst hnil) hsome
      · rename_i hwritten
        rw [hwritten] at htaken
        exact ⟨_, rfl, htaken⟩

theorem spelled?_of_forall₂ {word written : List Char} (rest : List Char)
    (h : List.Forall₂ (fun letter c => isLetter letter c = true) word written) :
    spelled? word (written ++ rest) = some (written, rest) := by
  induction h with
  | nil => rfl
  | cons hletter _ ih => rw [List.cons_append, spelled?, if_pos hletter, ih, Option.map_some]

/-- No character counts as both of the letters that names begin with. -/
theorem not_isLetter_i_of_isLetter_n {c : Char} (h : isLetter 'n' c = true) :
    ¬isLetter 'i' c = true := by
  intro hi
  have hn := eq_of_isLetter (by decide) h
  rcases hn with rfl | rfl <;> exact absurd hi (by decide)

/-- A name is taken in its longest form. -/
theorem exists_writtenWord? {cs text : List Char} (h : Spelling .word text)
    (hcs : text <+: cs) : ∃ taken, writtenWord? cs = some taken ∧ text <+: taken := by
  cases h with
  | @word name text hname htext =>
      obtain ⟨rest, rfl⟩ := hcs
      simp only [names, List.mem_cons, List.not_mem_nil, or_false] at hname
      rcases hname with rfl | rfl | rfl
      · have hshort : List.Forall₂ _ ['i', 'n', 'f'] text := htext
        rw [writtenWord?, spelled?_of_forall₂ rest hshort]
        dsimp only
        split
        · exact ⟨_, rfl, List.prefix_append _ _⟩
        · exact ⟨_, rfl, List.prefix_refl _⟩
      · have hshort : List.Forall₂ _ ['i', 'n', 'f'] (text.take 3) := List.forall₂_take 3 htext
        have hmore : List.Forall₂ _ ['i', 'n', 'i', 't', 'y'] (text.drop 3) :=
          List.forall₂_drop 3 htext
        have hcut : text ++ rest = text.take 3 ++ (text.drop 3 ++ rest) := by
          rw [← List.append_assoc, List.take_append_drop]
        refine ⟨text, ?_, List.prefix_refl _⟩
        rw [writtenWord?, hcut, spelled?_of_forall₂ _ hshort]
        dsimp only
        rw [spelled?_of_forall₂ _ hmore]
        dsimp only
        rw [List.take_append_drop]
      · have hletters : List.Forall₂ _ ['n', 'a', 'n'] text := htext
        refine ⟨text, ?_, List.prefix_refl _⟩
        have hnone : spelled? ['i', 'n', 'f'] (text ++ rest) = none := by
          cases hletters with
          | cons hfirst _ =>
              rw [List.cons_append, spelled?, if_neg (not_isLetter_i_of_isLetter_n hfirst)]
        rw [writtenWord?, hnone]
        dsimp only
        rw [spelled?_of_forall₂ rest hletters, Option.map_some]

/-! ### The forms beside one another -/

/-- What a numeral begins with after its sign. -/
theorem Spelling.head {form : NumeralForm} {text : List Char} (h : Spelling form text) :
    ∃ c rest, text = c :: rest ∧ c ≠ '+' ∧ c ≠ '-' ∧
      (form = .word ↔ isDecimalDigit c = false ∧ c ≠ '.') := by
  cases h with
  | hexadecimal => exact ⟨'0', _, rfl, by decide, by decide, by decide⟩
  | @decimal digits e hdigits he =>
      cases digits with
      | nil => exact absurd rfl hdigits.ne_nil
      | cons c digits =>
          have hc := hdigits.of_mem c List.mem_cons_self
          rcases hc with hdigit | rfl
          · obtain ⟨hplus, hminus⟩ := not_sign_of_isDecimalDigit hdigit
            exact ⟨c, digits ++ e, rfl, hplus, hminus, by simp [hdigit]⟩
          · exact ⟨'.', digits ++ e, rfl, by decide, by decide, by simp⟩
  | @word name text hname htext =>
      have hhead := head_of_word hname htext
      cases text with
      | nil =>
          have hlength := htext.length_eq
          simp only [names, List.mem_cons, List.not_mem_nil, or_false] at hname
          rcases hname with rfl | rfl | rfl <;> cases hlength
      | cons c text =>
          obtain ⟨hdigit, hpoint, hplus, hminus⟩ := hhead c rfl
          exact ⟨c, text, rfl, hplus, hminus, by simp [hdigit, hpoint]⟩

/-- Names and other numerals do not begin the same text. -/
theorem Spelling.eq_word_iff {f g : NumeralForm} {a b cs : List Char} (ha : Spelling f a)
    (hb : Spelling g b) (hacs : a <+: cs) (hbcs : b <+: cs) : f = .word ↔ g = .word := by
  obtain ⟨c, as, rfl, -, -, hf⟩ := ha.head
  obtain ⟨d, bs, rfl, -, -, hg⟩ := hb.head
  obtain ⟨rest, rfl⟩ := hacs
  obtain ⟨rfl, -⟩ := List.cons_prefix_cons.mp hbcs
  rw [hf, hg]

/-- A decimal numeral does not have the mark of the hexadecimal ones. -/
theorem Spelling.not_isPrefix {a b : List Char} (ha : Spelling .hexadecimal a)
    (hb : Spelling .decimal b) : ¬a <+: b := by
  cases ha with
  | @hexadecimal x digits e hx =>
      have hmark : x = 'x' ∨ x = 'X' := eq_of_isLetter (by decide) hx
      intro hprefix
      have hmem : x ∈ b := hprefix.subset (by simp)
      cases hb with
      | @decimal digits e hdigits he =>
          rcases List.mem_append.mp hmem with hd | he'
          · have hclass := hdigits.of_mem x hd
            rcases hmark with rfl | rfl <;> exact absurd hclass (by decide)
          · have hclass := he.of_mem x he'
            rcases hmark with rfl | rfl <;> exact absurd hclass (by decide)

/-- A text is spelled in one form only. -/
theorem Spelling.form_eq {f g : NumeralForm} {text : List Char} (hf : Spelling f text)
    (hg : Spelling g text) : f = g := by
  have hword := hf.eq_word_iff hg (List.prefix_refl text) (List.prefix_refl text)
  cases f with
  | hexadecimal =>
      cases g with
      | hexadecimal => rfl
      | decimal => exact absurd (List.prefix_refl text) (hf.not_isPrefix hg)
      | word => exact hword.mpr rfl
  | decimal =>
      cases g with
      | hexadecimal => exact absurd (List.prefix_refl text) (hg.not_isPrefix hf)
      | decimal => rfl
      | word => exact hword.mpr rfl
  | word => exact (hword.mp rfl).symm

/-! ### The longest numeral -/

/-- A numeral of some form, with a sign or without. -/
def Spelled (form : NumeralForm) (text : List Char) : Prop :=
  ∃ s unsigned, text = s ++ unsigned ∧ IsSign s ∧ Spelling form unsigned

/-- The longest text of a grammar that `cs` begins with, and its form. -/
structure IsLongest (grammar : NumeralForm → List Char → Prop) (cs : List Char) (n : Numeral) :
    Prop where
  begins : n.text <+: cs
  spelled : grammar n.form n.text
  longest : ∀ form text, text <+: cs → grammar form text → text.length ≤ n.text.length

theorem Spelling.writtenSign_append {form : NumeralForm} {s text : List Char} (hs : IsSign s)
    (h : Spelling form text) (rest : List Char) :
    writtenSign (s ++ (text ++ rest)) = (s, text ++ rest) := by
  obtain ⟨c, more, rfl, hplus, hminus, -⟩ := h.head
  refine Numeral.writtenSign_append hs fun d hd => ?_
  obtain rfl : c = d := Option.some.inj hd
  exact ⟨hplus, hminus⟩

theorem Spelled.form_eq {f g : NumeralForm} {text : List Char} (hf : Spelled f text)
    (hg : Spelled g text) : f = g := by
  obtain ⟨s, t, rfl, hs, ht⟩ := hf
  obtain ⟨s', t', heq, hs', ht'⟩ := hg
  have hsign := ht.writtenSign_append hs []
  have hsign' := ht'.writtenSign_append hs' []
  rw [List.append_nil, heq] at hsign
  rw [List.append_nil, hsign] at hsign'
  obtain ⟨-, rfl⟩ := Prod.mk.inj hsign'
  exact ht.form_eq ht'

/-- No numeral with digits is found where a name stands. -/
theorem eq_none_of_word {form : NumeralForm} {text cs : List Char} {found : Option (List Char)}
    (h : Spelling .word text) (hcs : text <+: cs) (hform : form ≠ .word)
    (hfound : ∀ taken, found = some taken → Spelling form taken ∧ taken <+: cs) : found = none := by
  cases found with
  | none => rfl
  | some taken =>
      obtain ⟨htaken, hbegins⟩ := hfound taken rfl
      exact absurd ((htaken.eq_word_iff h hbegins hcs).mpr rfl) hform

/-- Whatever numeral a text begins with, one at least as long is found. -/
theorem exists_leading? {form : NumeralForm} {text cs : List Char} (h : Spelled form text)
    (hcs : text <+: cs) : ∃ n, leading? cs = some n ∧ text.length ≤ n.text.length := by
  obtain ⟨s, unsigned, rfl, hs, hspelling⟩ := h
  obtain ⟨rest, rfl⟩ := hcs
  have hprefix := List.prefix_append unsigned rest
  have hlonger {taken : List Char} (hle : unsigned <+: taken) :
      (s ++ unsigned).length ≤ (s ++ taken).length :=
    ((List.prefix_append_right_inj s).mpr hle).length_le
  rw [List.append_assoc, leading?, hspelling.writtenSign_append hs rest]
  dsimp only
  cases form with
  | hexadecimal =>
      obtain ⟨taken, hhex, hle⟩ := exists_writtenHexadecimal? hspelling hprefix
      rw [hhex]
      exact ⟨_, rfl, hlonger hle⟩
  | decimal =>
      obtain ⟨taken, hdecimal, hle⟩ := exists_writtenDecimal? hspelling hprefix
      cases hhex : writtenHexadecimal? (unsigned ++ rest) with
      | none =>
          dsimp only
          rw [hdecimal]
          exact ⟨_, rfl, hlonger hle⟩
      | some other =>
          -- Both begin the same text, and the hexadecimal one is not the shorter.
          refine ⟨_, rfl, hlonger ?_⟩
          rcases List.prefix_or_prefix_of_prefix hprefix (writtenHexadecimal?_isPrefix hhex)
            with hle | hle
          · exact hle
          · exact absurd hle ((spelling_writtenHexadecimal? hhex).not_isPrefix hspelling)
  | word =>
      obtain ⟨taken, hword, hle⟩ := exists_writtenWord? hspelling hprefix
      have hhex : writtenHexadecimal? (unsigned ++ rest) = none :=
        eq_none_of_word hspelling hprefix (by decide) fun taken h =>
          ⟨spelling_writtenHexadecimal? h, writtenHexadecimal?_isPrefix h⟩
      have hdecimal : writtenDecimal? (unsigned ++ rest) = none :=
        eq_none_of_word hspelling hprefix (by decide) fun taken h =>
          ⟨spelling_writtenDecimal? h, writtenDecimal?_isPrefix h⟩
      rw [hhex]
      dsimp only
      rw [hdecimal]
      dsimp only
      rw [hword]
      exact ⟨_, rfl, hlonger hle⟩

/-- **What is taken is the longest numeral**, in texts of all scripts. -/
theorem leading?_eq_some_iff {cs : List Char} {n : Numeral} :
    leading? cs = some n ↔ IsLongest Spelled cs n := by
  constructor
  · intro h
    refine ⟨leading?_isPrefix h, spelling_of_leading? h, fun form text hcs htext => ?_⟩
    obtain ⟨m, hm, hle⟩ := exists_leading? htext hcs
    rw [h] at hm
    obtain rfl := Option.some.inj hm
    exact hle
  · intro h
    obtain ⟨m, hm, hle⟩ := exists_leading? h.spelled h.begins
    have hspelled : Spelled m.form m.text := spelling_of_leading? hm
    have hlength := h.longest m.form m.text (leading?_isPrefix hm) hspelled
    have hprefix := List.prefix_of_prefix_length_le h.begins (leading?_isPrefix hm) hle
    have htext : n.text = m.text := hprefix.eq_of_length_le hlength
    have hform : n.form = m.form := h.spelled.form_eq (htext ▸ hspelled)
    have heq : n = m := by
      cases n
      cases m
      cases htext
      cases hform
      rfl
    rw [heq, hm]

/-- Nothing is taken exactly if the text begins with no numeral. -/
theorem leading?_eq_none_iff {cs : List Char} :
    leading? cs = none ↔ ∀ form text, text <+: cs → ¬Spelled form text := by
  constructor
  · intro h form text hcs htext
    obtain ⟨n, hn, -⟩ := exists_leading? htext hcs
    rw [h] at hn
    cases hn
  · intro h
    cases hleading : leading? cs with
    | none => rfl
    | some n =>
        exact absurd (spelling_of_leading? hleading) (h n.form n.text (leading?_isPrefix hleading))

end Numeral

end TerminalConfig
