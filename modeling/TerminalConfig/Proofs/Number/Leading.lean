/-
What the readers make of the numeral that a text begins with.

The numeral is cut out by one rule and read by another, and the rules differ: digits of an
exponent may be of any script for the one and not always for the other, and letters are
compared by case folding for the one and not for the other.

The main statement is when the cut and the readers agree.  A decimal numeral is always
read.  A name is read if it has basic characters only, and so is a hexadecimal numeral if
it is not too large besides.  Of the two, its size is noticed first: the basic digits that
an exponent begins with give it a value, whatever digits come after them.
-/
import TerminalConfig.Proofs.Number.Decimal
import TerminalConfig.Proofs.Number.Spelling

namespace TerminalConfig

open Text

namespace Numeral

/-! ### Runs of digits -/

/-- Hexadecimal digits are taken as far as they go. -/
theorem hexRun_append {ds tail : List Char} (hds : ∀ d ∈ ds, isHexDigit d = true)
    (htail : ∀ c ∈ tail.head?, isHexDigit c = false) :
    ∃ vs, hexRun (ds ++ tail) = (vs, tail) ∧ vs.length = ds.length := by
  induction ds with
  | nil =>
      refine ⟨[], ?_, rfl⟩
      cases tail with
      | nil => rfl
      | cons c tail =>
          have hc : hexDigit? c = none := by simpa [isHexDigit] using htail c (by simp)
          rw [List.nil_append, hexRun, hc]
  | cons d ds ih =>
      obtain ⟨hd, hds⟩ := List.forall_mem_cons.mp hds
      obtain ⟨v, hv⟩ := Option.isSome_iff_exists.mp hd
      obtain ⟨vs, hvs, hlength⟩ := ih hds
      refine ⟨v :: vs, ?_, by simp [hlength]⟩
      rw [List.cons_append, hexRun, hv, hvs]

/-! ### Reading a spelling -/

theorem not_sign_of_isDecimalDigit {c : Char} (h : isDecimalDigit c = true) :
    c ≠ '+' ∧ c ≠ '-' := by
  constructor <;>
    · rintro rfl
      exact absurd h (by decide)

/-- The mark of an exponent does not go on with the digits before it. -/
theorem not_hexDigit_of_mark {c : Char} (h : isLetter 'p' c = true) :
    isHexDigit c = false ∧ c ≠ '.' := by
  rcases eq_of_isLetter (by decide) h with rfl | rfl <;> decide

theorem not_decimalDigit_of_mark {c : Char} (h : isLetter 'e' c = true) :
    isDecimalDigit c = false ∧ c ≠ '.' ∧ c ≠ '_' := by
  rcases eq_of_isLetter (by decide) h with rfl | rfl <;> decide

/-- An exponent begins with its mark. -/
theorem Exponent.isLetter_head {mark : Char} {e : List Char} (h : Exponent mark e) :
    ∀ c ∈ e.head?, isLetter mark c = true := by
  cases h with
  | none => simp
  | some hmark => simpa using hmark

theorem sign_append {s text : List Char} (hs : IsSign s)
    (htext : ∀ c ∈ text.head?, c ≠ '+' ∧ c ≠ '-') :
    ∃ negative, sign (s ++ text) = (negative, text) := by
  rcases hs with rfl | rfl | rfl
  · refine ⟨false, ?_⟩
    rw [List.nil_append, sign.eq_def]
    split <;> simp_all
  · exact ⟨false, rfl⟩
  · exact ⟨true, rfl⟩

/-- A sign before digits is taken, and nothing more. -/
theorem sign_append_digits {s ds : List Char} (hs : IsSign s)
    (hds : ∀ d ∈ ds, isDecimalDigit d = true) : ∃ negative, sign (s ++ ds) = (negative, ds) :=
  sign_append hs fun d hd => not_sign_of_isDecimalDigit (hds d (List.mem_of_head? hd))

/-- A whole decimal exponent is taken. -/
theorem decimalExponent_taken {e : List Char} (h : Exponent 'e' e) :
    ∃ n, decimalExponent e = (n, []) := by
  cases h with
  | none => exact ⟨0, rfl⟩
  | @some c s ds hc hs hds hne =>
      have hmark : (c == 'e' || c == 'E') = true := by
        rcases eq_of_isLetter (by decide) hc with rfl | rfl <;> decide
      obtain ⟨negative, hsign⟩ := sign_append_digits hs hds
      rw [decimalExponent, if_pos hmark, hsign]
      dsimp only
      rw [digitRun_of_forall hds]
      cases ds with
      | nil => exact absurd rfl hne
      | cons d ds => exact ⟨_, rfl⟩

/-- A binary exponent is taken as a whole exactly if it is in basic characters. -/
theorem binaryExponent?_iff {e : List Char} (h : Exponent 'p' e) :
    (∃ n, binaryExponent? e = some (n, [])) ↔ ∀ c ∈ e, c.toNat < 0x80 := by
  cases h with
  | none => exact iff_of_true ⟨0, rfl⟩ (by simp)
  | @some c s ds hc hs hds hne =>
      have hletter : c = 'p' ∨ c = 'P' := eq_of_isLetter (by decide) hc
      have hmark : (c == 'p' || c == 'P') = true := by
        rcases hletter with rfl | rfl <;> decide
      obtain ⟨negative, hsign⟩ := sign_append_digits hs hds
      have hbasic : (∀ d ∈ c :: (s ++ ds), d.toNat < 0x80) ↔ ∀ d ∈ ds, d.isDigit = true := by
        have hc : c.toNat < 0x80 := by
          rcases hletter with rfl | rfl <;> decide
        have hs : ∀ d ∈ s, d.toNat < 0x80 := by
          rcases hs with rfl | rfl | rfl <;> simp
        rw [List.forall_mem_cons, List.forall_mem_append]
        refine ⟨fun h d hd => isDigit_of_isDecimalDigit (h.2.2 d hd) (hds d hd),
          fun h => ⟨hc, hs, fun d hd => ?_⟩⟩
        exact Nat.lt_of_le_of_lt (Char.isDigit_iff_toNat.mp (h d hd)).2 (by decide)
      rw [hbasic, binaryExponent?, if_pos hmark, hsign]
      dsimp only
      rw [digitRun_of_forall fun d hd => hds d ((List.takeWhile_prefix _).subset hd)]
      constructor
      · rintro ⟨n, hn⟩
        split at hn
        · cases hn
        · obtain ⟨-, hrest⟩ := Prod.mk.inj (Option.some.inj hn)
          exact List.dropWhile_eq_nil_iff.mp hrest
      · intro hdigits
        rw [List.takeWhile_eq_self_iff.mpr hdigits, List.dropWhile_eq_nil_iff.mpr hdigits]
        cases ds with
        | nil => exact absurd rfl hne
        | cons d ds => exact ⟨_, rfl⟩

/-- **A decimal numeral is always read.** -/
theorem decimal?_of_digits (negative : Bool) {digits e : List Char}
    (hdigits : Digits isDecimalDigit digits) (he : Exponent 'e' e) :
    ∃ x, decimal? negative (digits ++ e) = some x := by
  have hhead : ∀ c ∈ e.head?, isDecimalDigit c = false ∧ c ≠ '.' ∧ c ≠ '_' :=
    fun c hc => not_decimalDigit_of_mark (he.isLetter_head c hc)
  have htail : ∀ c ∈ e.head?, isDecimalDigit c = false ∧ c ≠ '_' :=
    fun c hc => ⟨(hhead c hc).1, (hhead c hc).2.2⟩
  obtain ⟨n, htaken⟩ := decimalExponent_taken he
  cases hdigits with
  | whole hds hne =>
      have hfraction : fraction e = ([], e) := by
        rw [fraction.eq_def]
        split <;> simp_all
      rw [decimal?, digitRun_append hds htail]
      simp [hfraction, htaken, hne]
  | @pointed whole part hwhole hpart hne =>
      have hpoint : ∀ c ∈ ('.' :: (part ++ e)).head?, isDecimalDigit c = false ∧ c ≠ '_' := by
        simp
        decide
      rw [List.append_assoc, List.cons_append, decimal?, digitRun_append hwhole hpoint]
      dsimp only
      rw [fraction, digitRun_append hpart htail]
      simp [htaken]
      grind

/-- The digits of a hexadecimal numeral are always taken, and the rest is up to its exponent. -/
theorem hexadecimal?_of_digits (negative : Bool) {digits e : List Char}
    (hdigits : Digits isHexDigit digits) (he : Exponent 'p' e) :
    ∃ m places : Nat, hexadecimal? negative (digits ++ e) =
      (binaryExponent? e).map fun (n, rest) => (.ofBinary negative m (n - 4 * places), rest) := by
  have hhead : ∀ c ∈ e.head?, isHexDigit c = false ∧ c ≠ '.' :=
    fun c hc => not_hexDigit_of_mark (he.isLetter_head c hc)
  have htail : ∀ c ∈ e.head?, isHexDigit c = false := fun c hc => (hhead c hc).1
  cases hdigits with
  | whole hds hne =>
      have hfraction : hexFraction e = ([], e) := by
        rw [hexFraction.eq_def]
        split <;> simp_all
      obtain ⟨vs, hrun, hlength⟩ := hexRun_append hds htail
      have hvs : vs ≠ [] := by
        rintro rfl
        exact hne (List.length_eq_zero_iff.mp hlength.symm)
      refine ⟨value 16 vs, 0, ?_⟩
      rw [hexadecimal?, hrun]
      simp [hfraction, hvs]
  | @pointed whole part hwhole hpart hne =>
      have hpoint : ∀ c ∈ ('.' :: (part ++ e)).head?, isHexDigit c = false := by
        simp
        decide
      obtain ⟨vs, hrun, hlength⟩ := hexRun_append hwhole hpoint
      obtain ⟨ws, hrun', hlength'⟩ := hexRun_append hpart htail
      have hsome : (vs.isEmpty && ws.isEmpty) = false := by
        rw [← Bool.not_eq_true]
        intro hempty
        simp only [Bool.and_eq_true, List.isEmpty_iff] at hempty
        obtain ⟨rfl, rfl⟩ := hempty
        rcases hne with hne | hne
        · exact hne (List.length_eq_zero_iff.mp hlength.symm)
        · exact hne (List.length_eq_zero_iff.mp hlength'.symm)
      refine ⟨value 16 (vs ++ ws), ws.length, ?_⟩
      rw [List.append_assoc, List.cons_append, hexadecimal?, hrun]
      dsimp only
      rw [hexFraction, hrun']
      simp [hsome]

/-! ### Names -/

/-- Where neither a digit nor a point stands, there is no decimal numeral. -/
theorem decimal?_of_head (negative : Bool) {cs : List Char}
    (h : ∀ c ∈ cs.head?, isDecimalDigit c = false ∧ c ≠ '.') : decimal? negative cs = none := by
  have hrun := digitRun_of_head fun c hc => (h c hc).1
  have hfraction : fraction cs = ([], cs) := by
    rw [fraction.eq_def]
    split <;> simp_all
  rw [decimal?, hrun]
  simp [hfraction]

theorem map_toLower_of_forall₂ {name text : List Char}
    (h : List.Forall₂ (fun letter c => isLetter letter c = true) name text)
    (hbasic : ∀ c ∈ text, c.toNat < 0x80) : text.map Char.toLower = name := by
  induction h with
  | nil => rfl
  | cons hletter _ ih =>
      obtain ⟨hc, hcs⟩ := List.forall_mem_cons.mp hbasic
      rw [List.map_cons, toLower_of_isLetter hc hletter, ih hcs]

/-- The names are written in small letters. -/
theorem small_of_mem_names {name : String} (hname : name ∈ names) {c : Char}
    (hc : c ∈ name.toList) : 'a'.toNat ≤ c.toNat ∧ c.toNat ≤ 'z'.toNat := by
  have hall : names.all (fun name => name.toList.all fun c =>
      decide ('a'.toNat ≤ c.toNat ∧ c.toNat ≤ 'z'.toNat)) = true := by decide
  have hletters := List.all_eq_true.mp (List.all_eq_true.mp hall name hname) c hc
  exact of_decide_eq_true hletters

/-- A name in basic characters is known. -/
theorem word?_of_basic (negative : Bool) {name : String} {text : List Char} (hname : name ∈ names)
    (htext : List.Forall₂ (fun letter c => isLetter letter c = true) name.toList text)
    (hbasic : ∀ c ∈ text, c.toNat < 0x80) : ∃ x, word? negative text = some x := by
  unfold word?
  rw [map_toLower_of_forall₂ htext hbasic, String.ofList_toList]
  simp only [names, List.mem_cons, List.not_mem_nil, or_false] at hname
  rcases hname with rfl | rfl | rfl <;> exact ⟨_, rfl⟩

/-- Only names in basic characters are known. -/
theorem basic_of_word? {negative : Bool} {text : List Char} {x : Binary64}
    (h : word? negative text = some x) : ∀ c ∈ text, c.toNat < 0x80 := by
  have hknown : String.ofList (text.map Char.toLower) ∈ names := by
    unfold word? at h
    split at h
    · rename_i heq
      rw [heq]
      decide
    · rename_i heq
      rw [heq]
      decide
    · rename_i heq
      rw [heq]
      decide
    · cases h
  intro c hc
  have hlower : 'a'.toNat ≤ c.toLower.toNat ∧ c.toLower.toNat ≤ 'z'.toNat := by
    refine small_of_mem_names hknown ?_
    rw [String.toList_ofList]
    exact List.mem_map_of_mem hc
  have hlast : c.toLower.toNat < 0x80 := Nat.lt_of_le_of_lt hlower.2 (by decide)
  rcases toNat_of_toLower (rfl : c.toLower = c.toLower) with hsame | hbefore <;> omega

/-- What a name begins with begins no other numeral. -/
theorem head_of_word {name : String} {text : List Char} (hname : name ∈ names)
    (htext : List.Forall₂ (fun letter c => isLetter letter c = true) name.toList text) :
    ∀ c ∈ text.head?, isDecimalDigit c = false ∧ c ≠ '.' ∧ c ≠ '+' ∧ c ≠ '-' := by
  have hfirst : ∀ name ∈ names, name.toList.head? = some 'i' ∨ name.toList.head? = some 'n' := by
    decide
  have hcodes : ∀ code ∈ [105, 73, 0x130, 0x131, 110, 78],
      (digitAmong code decimalZeros).isSome = false ∧ code ∉ ['.'.toNat, '+'.toNat, '-'.toNat] := by
    decide
  have hletters := hfirst name hname
  intro c hc
  generalize name.toList = letters at htext hletters
  cases htext with
  | nil => cases hc
  | @cons letter d letters cs hletter _ =>
      obtain rfl : d = c := by simpa using hc
      have hcode : d.toNat ∈ [105, 73, 0x130, 0x131, 110, 78] := by
        have hfirst : letter = 'i' ∨ letter = 'n' := by simpa using hletters
        rcases hfirst with rfl | rfl
        · rcases toNat_of_isLetter hletter with hsame | hbefore | ⟨-, hdot | hdot⟩
          · simp [hsame]
          · have hcapital : d.toNat = 73 := by simpa using hbefore
            simp [hcapital]
          · simp [hdot]
          · simp [hdot]
        · rcases toNat_of_isLetter hletter with hsame | hbefore | ⟨hi, -⟩
          · simp [hsame]
          · have hcapital : d.toNat = 78 := by simpa using hbefore
            simp [hcapital]
          · exact absurd hi (by decide)
      obtain ⟨hdigit, hother⟩ := hcodes _ hcode
      refine ⟨hdigit, ?_, ?_, ?_⟩ <;>
        · rintro rfl
          exact hother (by simp)

/-! ### White space -/

theorem isWhitespace_of_isLetter {letter c : Char} (hlow : 'a'.toNat ≤ letter.toNat)
    (hhigh : letter.toNat ≤ 'z'.toNat) (h : isLetter letter c = true) : isWhitespace c = false := by
  have hcode := toNat_of_isLetter h
  simp at hlow hhigh
  simp only [isWhitespace, whitespaceRanges, inRanges]
  grind

/-! ### What the readers make of a spelling -/

theorem Digits.of_mem {isDigit : Char → Bool} {digits : List Char} (h : Digits isDigit digits) :
    ∀ c ∈ digits, isDigit c = true ∨ c = '.' := by
  intro c hc
  cases h with
  | whole hds => exact Or.inl (hds c hc)
  | pointed hwhole hpart =>
      rcases List.mem_append.mp hc with hc | hc
      · exact Or.inl (hwhole c hc)
      · rcases List.mem_cons.mp hc with rfl | hc
        · exact Or.inr rfl
        · exact Or.inl (hpart c hc)

theorem Exponent.of_mem {mark : Char} {e : List Char} (h : Exponent mark e) :
    ∀ c ∈ e, isLetter mark c = true ∨ c = '+' ∨ c = '-' ∨ isDecimalDigit c = true := by
  intro c hc
  cases h with
  | none => cases hc
  | @some d s ds hmark hs hds =>
      rcases List.mem_cons.mp hc with rfl | hc
      · exact Or.inl hmark
      · rcases List.mem_append.mp hc with hc | hc
        · rcases hs with rfl | rfl | rfl
          · cases hc
          · exact Or.inr (Or.inl (List.mem_singleton.mp hc))
          · exact Or.inr (Or.inr (Or.inl (List.mem_singleton.mp hc)))
        · exact Or.inr (Or.inr (Or.inr (hds c hc)))

theorem Digits.ne_nil {isDigit : Char → Bool} {digits : List Char} (h : Digits isDigit digits) :
    digits ≠ [] := by
  cases h with
  | whole _ hne => exact hne
  | pointed => simp

/-- The reader of decimal numerals passes the sign, and nothing is trimmed. -/
theorem readDecimal_of_sign {s text : List Char} (hs : IsSign s)
    (hhead : ∀ c ∈ text.head?, c ≠ '+' ∧ c ≠ '-') (hspace : ∀ c ∈ text, isSpace c = false) :
    ∃ negative, readDecimal (String.ofList (s ++ text)) =
      match (decimal? negative text).orElse fun _ => word? negative text with
      | some x => .ok x
      | none => .error (.notDecimal (String.ofList (s ++ text))) := by
  obtain ⟨negative, hsign⟩ := sign_append hs hhead
  have htrim : trimWith isSpace (s ++ text) = s ++ text := by
    refine trimWith_of_forall fun c hc => ?_
    rcases List.mem_append.mp hc with hc | hc
    · rcases hs with rfl | rfl | rfl
      · cases hc
      · rw [List.mem_singleton.mp hc]
        decide
      · rw [List.mem_singleton.mp hc]
        decide
    · exact hspace c hc
  have hread := readDecimal.eq_def (String.ofList (s ++ text))
  rw [String.toList_ofList, htrim, hsign] at hread
  exact ⟨negative, hread⟩

theorem readDecimal_of_decimal {s text : List Char} (hs : IsSign s)
    (h : Spelling .decimal text) : ∃ x, readDecimal (String.ofList (s ++ text)) = .ok x := by
  cases h with
  | @decimal digits e hdigits he =>
      have hhead : ∀ c ∈ (digits ++ e).head?, c ≠ '+' ∧ c ≠ '-' := by
        intro c hc
        rw [List.head?_append_of_ne_nil _ hdigits.ne_nil] at hc
        rcases hdigits.of_mem c (List.mem_of_head? hc) with hdigit | rfl
        · exact not_sign_of_isDecimalDigit hdigit
        · decide
      have hspace : ∀ c ∈ digits ++ e, isSpace c = false := by
        have hdigit {c : Char} (h : isDecimalDigit c = true) : isSpace c = false :=
          isSpace_of_isWhitespace (isWhitespace_of_isDecimalDigit h)
        intro c hc
        rcases List.mem_append.mp hc with hc | hc
        · rcases hdigits.of_mem c hc with hd | rfl
          · exact hdigit hd
          · decide
        · rcases he.of_mem c hc with hmark | rfl | rfl | hd
          · rcases eq_of_isLetter (by decide) hmark with rfl | rfl <;> decide
          · decide
          · decide
          · exact hdigit hd
      obtain ⟨negative, hread⟩ := readDecimal_of_sign hs hhead hspace
      obtain ⟨x, hx⟩ := decimal?_of_digits negative hdigits he
      rw [hread, hx]
      exact ⟨x, rfl⟩

theorem exists_of_forall₂ {α β : Type} {R : α → β → Prop} {as : List α} {bs : List β}
    (h : List.Forall₂ R as bs) {b : β} (hb : b ∈ bs) : ∃ a ∈ as, R a b := by
  induction h with
  | nil => cases hb
  | cons hab _ ih =>
      rcases List.mem_cons.mp hb with rfl | hb
      · exact ⟨_, by simp, hab⟩
      · obtain ⟨a, ha, hR⟩ := ih hb
        exact ⟨a, by simp [ha], hR⟩

theorem readDecimal_of_word {s text : List Char} (hs : IsSign s) (h : Spelling .word text) :
    ((∀ c ∈ text, c.toNat < 0x80) → ∃ x, readDecimal (String.ofList (s ++ text)) = .ok x) ∧
    (¬(∀ c ∈ text, c.toNat < 0x80) → readDecimal (String.ofList (s ++ text)) =
      .error (.notDecimal (String.ofList (s ++ text)))) := by
  cases h with
  | @word name text hname htext =>
      have hhead := head_of_word hname htext
      have hspace : ∀ c ∈ text, isSpace c = false := by
        intro c hc
        obtain ⟨letter, hletter, hcounts⟩ := exists_of_forall₂ htext hc
        obtain ⟨hlow, hhigh⟩ := small_of_mem_names hname hletter
        exact isSpace_of_isWhitespace (isWhitespace_of_isLetter hlow hhigh hcounts)
      obtain ⟨negative, hread⟩ := readDecimal_of_sign hs (fun c hc => (hhead c hc).2.2) hspace
      have hnone : decimal? negative text = none :=
        decimal?_of_head negative fun c hc => ⟨(hhead c hc).1, (hhead c hc).2.1⟩
      rw [hread, hnone]
      refine ⟨fun hbasic => ?_, fun hbasic => ?_⟩
      · obtain ⟨x, hx⟩ := word?_of_basic negative hname htext hbasic
        exact ⟨x, by simp [hx]⟩
      · cases hx : word? negative text with
        | none => rfl
        | some x => exact absurd (basic_of_word? hx) hbasic

/-- A hexadecimal numeral is taken as a whole exactly if it is in basic characters. -/
theorem takeHexadecimal?_iff {s text : List Char} (hs : IsSign s)
    (h : Spelling .hexadecimal text) :
    (∃ x, takeHexadecimal? (s ++ text) = some (x, [])) ↔ ∀ c ∈ text, c.toNat < 0x80 := by
  cases h with
  | @hexadecimal x digits e hx hdigits he =>
      have hmark : x = 'x' ∨ x = 'X' := eq_of_isLetter (by decide) hx
      obtain ⟨negative, hsign⟩ := @sign_append s ('0' :: x :: (digits ++ e)) hs (by simp)
      obtain ⟨m, places, hdigits'⟩ := hexadecimal?_of_digits negative hdigits he
      have htake : takeHexadecimal? (s ++ '0' :: x :: (digits ++ e)) =
          (binaryExponent? e).map fun (n, rest) =>
            (.ofBinary negative m (n - 4 * places), rest) := by
        rw [takeHexadecimal?, hsign, ← hdigits']
        rcases hmark with rfl | rfl <;> rfl
      have hbasic : (∀ c ∈ '0' :: x :: (digits ++ e), c.toNat < 0x80) ↔ ∀ c ∈ e, c.toNat < 0x80 := by
        have hx : x.toNat < 0x80 := by
          rcases hmark with rfl | rfl <;> decide
        rw [List.forall_mem_cons, List.forall_mem_cons, List.forall_mem_append]
        refine ⟨fun h => h.2.2.2, fun h => ⟨by decide, hx, fun c hc => ?_, h⟩⟩
        rcases hdigits.of_mem c hc with hdigit | rfl
        · obtain ⟨d, hd⟩ := Option.isSome_iff_exists.mp hdigit
          exact toNat_lt_of_hexDigit? hd
        · decide
      rw [htake, hbasic, ← binaryExponent?_iff he]
      constructor
      · rintro ⟨y, hy⟩
        obtain ⟨⟨n, rest⟩, hn, heq⟩ := Option.map_eq_some_iff.mp hy
        obtain ⟨-, rfl⟩ := Prod.mk.inj heq
        exact ⟨n, hn⟩
      · rintro ⟨n, hn⟩
        rw [hn]
        exact ⟨_, rfl⟩

/-! ### When a numeral is refused -/

/-- The numeral has basic characters only. -/
def isBasic (n : Numeral) : Bool :=
  n.text.all fun c => c.toNat < 0x80

/-- The number that a hexadecimal numeral stands for, as far as its digits are basic ones. -/
def hexValue? (n : Numeral) : Option Binary64 :=
  (takeHexadecimal? n.text).map (·.1)

/-- Why a numeral that a text begins with is not read, if it is not. -/
def refusal? (n : Numeral) : Option NumeralError :=
  match n.form with
  | .decimal => none
  | .word => if n.isBasic then none else some (.notDecimal (String.ofList n.text))
  | .hexadecimal =>
    if n.hexValue?.any Binary64.isInfinite then some .hexadecimalTooLarge
    else if n.isBasic then none
    else some .notHexadecimal

/-- A sign is in basic characters. -/
theorem isBasic_iff (form : NumeralForm) {s text : List Char} (hs : IsSign s) :
    isBasic ⟨form, s ++ text⟩ = true ↔ ∀ c ∈ text, c.toNat < 0x80 := by
  rcases hs with rfl | rfl | rfl <;> simp [isBasic]

/-- The reader of hexadecimal numerals refuses what is refused. -/
theorem refusal?_of_hexadecimal {s text : List Char} (hs : IsSign s)
    (h : Spelling .hexadecimal text) :
    refusal? ⟨.hexadecimal, s ++ text⟩ =
      match readHexadecimal (String.ofList (s ++ text)) with
      | .ok _ => none
      | .error e => some e := by
  have htaken := takeHexadecimal?_iff hs h
  rw [← isBasic_iff .hexadecimal hs] at htaken
  rw [readHexadecimal, String.toList_ofList, refusal?, hexValue?]
  cases htake : takeHexadecimal? (s ++ text) with
  | none =>
      have hother : ¬isBasic ⟨.hexadecimal, s ++ text⟩ = true := by
        simpa [htake] using htaken
      simp [hother]
  | some taken =>
      obtain ⟨x, rest⟩ := taken
      have hrest : rest.isEmpty = isBasic ⟨.hexadecimal, s ++ text⟩ := by
        rw [Bool.eq_iff_iff, ← htaken, htake, List.isEmpty_iff]
        simp
      rw [← hrest]
      by_cases hinfinite : x.isInfinite = true
      · simp [hinfinite]
      · cases rest <;> simp [hinfinite]

/-- **What a text begins with is read unless it is refused.** -/
theorem read_of_leading? {cs : List Char} {n : Numeral} (h : leading? cs = some n) :
    (n.refusal? = none → ∃ x, n.read = .ok x) ∧
      ∀ e, n.refusal? = some e → n.read = .error e := by
  obtain ⟨s, text, htext, hs, hspelling⟩ := spelling_of_leading? h
  obtain ⟨form, written⟩ := n
  obtain rfl : written = s ++ text := htext
  cases form with
  | decimal => exact ⟨fun _ => readDecimal_of_decimal hs hspelling, by simp [refusal?]⟩
  | word =>
      obtain ⟨hread, hrefused⟩ := readDecimal_of_word hs hspelling
      by_cases hall : ∀ c ∈ text, c.toNat < 0x80
      · have hnone : refusal? ⟨.word, s ++ text⟩ = none := if_pos ((isBasic_iff .word hs).mpr hall)
        rw [hnone]
        exact ⟨fun _ => hread hall, by simp⟩
      · have hsome : refusal? ⟨.word, s ++ text⟩ =
            some (.notDecimal (String.ofList (s ++ text))) :=
          if_neg (mt (isBasic_iff .word hs).mp hall)
        rw [hsome]
        refine ⟨by simp, fun e he => ?_⟩
        obtain rfl := Option.some.inj he
        exact hrefused hall
  | hexadecimal =>
      have hrefusal := refusal?_of_hexadecimal hs hspelling
      rw [hrefusal, read]
      cases readHexadecimal (String.ofList (s ++ text)) with
      | ok x => exact ⟨fun _ => ⟨x, rfl⟩, by simp⟩
      | error e => simp

/-- The size of a numeral is noticed before a digit of another script is. -/
example :
    readLeading "0x1p1024\u0663" = .error .hexadecimalTooLarge ∧
      readLeading "0x1p102\u0663" = .error .notHexadecimal := by
  decide +kernel

/-- Why reading what a text begins with fails, if it does. -/
def leadingRefusal? (text : String) : Option NumeralError :=
  (leading? text.toList).bind refusal?

/-- A text is read unless what it begins with is refused. -/
theorem readLeading_of_refusal (text : String) :
    (leadingRefusal? text = none → ∃ x, readLeading text = .ok x) ∧
      ∀ e, leadingRefusal? text = some e → readLeading text = .error e := by
  unfold leadingRefusal? readLeading
  cases hleading : leading? text.toList with
  | none => exact ⟨fun _ => ⟨.zero, rfl⟩, by simp⟩
  | some n => exact read_of_leading? hleading

end Numeral

end TerminalConfig
