/-
What octets mean that need not be UTF-8.

`Decodes` says it without a decoder.  Where a character is spelled it is read.  Where none is,
one replacement character stands for the longest beginning of a character that is found there,
and for a single octet if not even a character begins.  The rule leaves no choice, and the
decoder follows it: octet by octet, with nothing in hand but a few numbers on the character
begun.

The induction is on the octets that are still to come.  What it carries along is `Pending`,
the octets that have been read and not yet been answered for.
-/
import TerminalConfig.Proofs.Text.Utf8.Beginning

namespace TerminalConfig.Text.Utf8

open String (utf8EncodeChar)

/-! ### The rule -/

/-- `bad` is replaced at the front of `bad ++ rest`: no character is spelled there, and no
longer beginning of one is found. -/
structure IllFormed (bad rest : List UInt8) : Prop where
  not_encode : ∀ c, ¬utf8EncodeChar c <+: bad ++ rest
  nonempty : bad ≠ []
  begins : Begins bad ∨ bad.length = 1
  longest : ∀ longer, longer <+: bad ++ rest → Begins longer → longer.length ≤ bad.length

/-- The characters that octets stand for. -/
inductive Decodes : List UInt8 → List Char → Prop
  | nil : Decodes [] []
  | char (c : Char) {rest : List UInt8} {cs : List Char} (h : Decodes rest cs) :
      Decodes (utf8EncodeChar c ++ rest) (c :: cs)
  | replaced {bad rest : List UInt8} {cs : List Char} (hbad : IllFormed bad rest)
      (h : Decodes rest cs) : Decodes (bad ++ rest) (replacement :: cs)

theorem Begun.illFormed {pending : List UInt8} {owed bits low high : Nat}
    (h : Begun pending owed bits low high) {rest : List UInt8}
    (hrest : ∀ b ∈ rest.head?, ¬(low ≤ b.toNat ∧ b.toNat ≤ high)) : IllFormed pending rest where
  not_encode := h.not_encode_of_refused hrest
  nonempty := h.nonempty
  begins := .inl h.begins
  longest := fun _ hlonger hbegins => h.length_le_of_refused hrest hlonger hbegins

/-- An octet with which no character begins is replaced by itself. -/
theorem illFormed_singleton {b : UInt8} (h : ¬Begins [b]) (rest : List UInt8) :
    IllFormed [b] rest := by
  have hnil : ∀ longer, longer <+: [b] ++ rest → Begins longer → longer = [] := by
    rintro longer ⟨more, hmore⟩ ⟨c, hc⟩
    cases longer with
    | nil => rfl
    | cons first longer =>
        obtain rfl : first = b := (List.cons.inj hmore).1
        exact absurd ⟨c, (List.prefix_append [first] longer).trans hc⟩ h
  refine ⟨fun c hc => ?_, List.cons_ne_nil b [], .inr rfl, fun longer hlonger hbegins => ?_⟩
  · exact String.utf8EncodeChar_ne_nil (hnil _ hc ⟨c, List.prefix_refl _⟩)
  · rw [hnil longer hlonger hbegins]
    exact Nat.zero_le 1

/-! ### The rule leaves no choice -/

theorem IllFormed.length_le {bad rest other more : List UInt8} (h : IllFormed bad rest)
    (hother : IllFormed other more) (heq : bad ++ rest = other ++ more) :
    bad.length ≤ other.length := by
  rcases h.begins with hbegins | hlength
  · refine hother.longest bad ?_ hbegins
    rw [← heq]
    exact List.prefix_append bad rest
  · rw [hlength]
    exact List.length_pos_iff.mpr hother.nonempty

theorem Decodes.cases_eq {octets : List UInt8} {cs : List Char} (h : Decodes octets cs) :
    (octets = [] ∧ cs = []) ∨
    (∃ c rest more, octets = utf8EncodeChar c ++ rest ∧ cs = c :: more ∧ Decodes rest more) ∨
    (∃ bad rest more, octets = bad ++ rest ∧ cs = replacement :: more ∧ IllFormed bad rest ∧
      Decodes rest more) := by
  cases h with
  | nil => exact .inl ⟨rfl, rfl⟩
  | char c h => exact .inr (.inl ⟨c, _, _, rfl, rfl, h⟩)
  | replaced hbad h => exact .inr (.inr ⟨_, _, _, rfl, rfl, hbad, h⟩)

/-- Octets stand for one text only. -/
theorem Decodes.unique {octets : List UInt8} {cs ds : List Char} (hcs : Decodes octets cs)
    (hds : Decodes octets ds) : cs = ds := by
  induction hcs generalizing ds with
  | nil =>
      rcases hds.cases_eq with ⟨-, rfl⟩ | ⟨d, _, _, heq, -, -⟩ | ⟨_, _, _, heq, -, hbad, -⟩
      · rfl
      · exact absurd (List.append_eq_nil_iff.mp heq.symm).1 String.utf8EncodeChar_ne_nil
      · exact absurd (List.append_eq_nil_iff.mp heq.symm).1 hbad.nonempty
  | @char c rest cs h ih =>
      rcases hds.cases_eq with ⟨heq, -⟩ | ⟨d, others, _, heq, rfl, h'⟩ | ⟨_, _, _, heq, -, hbad, -⟩
      · exact absurd (List.append_eq_nil_iff.mp heq).1 String.utf8EncodeChar_ne_nil
      · have hc : utf8EncodeChar c <+: utf8EncodeChar c ++ rest := List.prefix_append _ _
        have hd : utf8EncodeChar d <+: utf8EncodeChar c ++ rest := ⟨others, heq.symm⟩
        have hcd : c = d :=
          (List.prefix_or_prefix_of_prefix hc hd).elim eq_of_isPrefix
            fun hshort => (eq_of_isPrefix hshort).symm
        subst hcd
        rw [ih (List.append_cancel_left heq ▸ h')]
      · exact absurd ⟨rest, heq⟩ (hbad.not_encode c)
  | @replaced bad rest cs hbad h ih =>
      rcases hds.cases_eq with ⟨heq, -⟩ | ⟨d, others, _, heq, -, -⟩ | ⟨_, _, _, heq, rfl, hbad', h'⟩
      · exact absurd (List.append_eq_nil_iff.mp heq).1 hbad.nonempty
      · exact absurd ⟨others, heq.symm⟩ (hbad.not_encode d)
      · have hlength := Nat.le_antisymm (hbad.length_le hbad' heq) (hbad'.length_le hbad heq.symm)
        obtain ⟨rfl, rfl⟩ := List.append_inj heq hlength
        rw [ih h']

/-! ### The decoder follows the rule -/

/-- The characters of the rest of an input. -/
def decodeFrom (state : State) (octets : List UInt8) : List Char :=
  (run state octets).2 ++ finish (run state octets).1

theorem decodeFrom_cons (state : State) (b : UInt8) (octets : List UInt8) :
    decodeFrom state (b :: octets) =
      (step state b.toNat).2 ++ decodeFrom (step state b.toNat).1 octets := by
  unfold decodeFrom
  rw [run, List.append_assoc]

/-- An octet that is refused is read as if it came first. -/
theorem decodeFrom_afresh (refused : List Char) (b : UInt8) (octets : List UInt8) :
    (afresh refused b.toNat).2 ++ decodeFrom (afresh refused b.toNat).1 octets =
      refused ++ decodeFrom .between (b :: octets) := by
  rw [decodeFrom_cons, step, afresh, List.append_assoc]

/-- The octets that a decoder has read and not yet answered for. -/
inductive Pending : State → List UInt8 → Prop
  | between : Pending .between []
  | inside {pending : List UInt8} {owed bits low high : Nat}
      (h : Begun pending owed bits low high) : Pending (.inside owed bits low high) pending
  | surrogate {b : UInt8} (h : 0xA0 ≤ b.toNat ∧ b.toNat ≤ 0xBF) : Pending .surrogate [0xED, b]

/-- The octets that begin a surrogate are two things to replace. -/
theorem Decodes.surrogate {b : UInt8} (hb : 0xA0 ≤ b.toNat ∧ b.toNat ≤ 0xBF) {rest : List UInt8}
    {cs : List Char} (h : Decodes rest cs) :
    Decodes ([0xED, b] ++ rest) ([replacement, replacement] ++ cs) := by
  have hlead : Begun [0xED] 2 0xD 0x80 0x9F := begun_first rfl
  have hfirst : IllFormed [0xED] ([b] ++ rest) := by
    refine hlead.illFormed fun x hx => ?_
    obtain rfl : b = x := Option.some.inj hx
    omega
  have hsecond : ¬Begins [b] := by
    rintro ⟨c, hc⟩
    rw [singleton_isPrefix_iff] at hc
    have hcases := lead_cases c
    omega
  have hall := Decodes.replaced hfirst (.replaced (illFormed_singleton hsecond rest) h)
  exact hall

theorem Pending.decodes_finish {state : State} {pending : List UInt8} (h : Pending state pending) :
    Decodes pending (finish state) := by
  cases h with
  | between => exact .nil
  | inside h =>
      have hbad : IllFormed pending [] := h.illFormed (by simp)
      have hall := Decodes.replaced hbad .nil
      rw [List.append_nil] at hall
      exact hall
  | surrogate hb => exact Decodes.surrogate hb .nil

/-- The decoder answers for all octets that it has read. -/
theorem decodes_decodeFrom {state : State} {pending : List UInt8} (h : Pending state pending)
    (octets : List UInt8) : Decodes (pending ++ octets) (decodeFrom state octets) := by
  induction octets generalizing state pending with
  | nil =>
      rw [List.append_nil]
      exact h.decodes_finish
  | cons b octets ih =>
      have hfresh : Decodes (b :: octets) (decodeFrom .between (b :: octets)) := by
        rw [decodeFrom_cons, step]
        rcases first_cases b with ⟨c, hfirst, hc⟩ | ⟨_, _, _, _, hfirst⟩ | ⟨hfirst, hnone⟩
        · rw [hfirst]
          have hrest := Decodes.char c (ih .between)
          rw [hc] at hrest
          exact hrest
        · rw [hfirst]
          exact ih (.inside (begun_first hfirst))
        · rw [hfirst]
          exact .replaced (illFormed_singleton hnone octets) (ih .between)
      cases h with
      | between => exact hfresh
      | surrogate hb =>
          rw [decodeFrom_cons, step, decodeFrom_afresh]
          exact hfresh.surrogate hb
      | @inside _ owed bits low high h =>
          rw [decodeFrom_cons, step]
          by_cases hb : low ≤ b.toNat ∧ b.toNat ≤ high
          · rw [if_pos hb]
            by_cases howed : owed ≤ 1
            · obtain rfl : owed = 1 := Nat.le_antisymm howed h.one_le_owed
              rw [if_pos (Nat.le_refl 1)]
              have hrest :=
                Decodes.char (Char.ofNat (bits * 64 + (b.toNat - 0x80))) (ih .between)
              rw [h.encode_last hb, List.append_assoc] at hrest
              exact hrest
            · rw [if_neg howed]
              have hrest := ih (.inside (h.push (Nat.lt_of_not_le howed) hb))
              rw [List.append_assoc] at hrest
              exact hrest
          · rw [if_neg hb]
            by_cases hsurrogate : high = 0x9F ∧ 0xA0 ≤ b.toNat ∧ b.toNat ≤ 0xBF
            · rw [if_pos hsurrogate]
              obtain ⟨hhigh, hrange⟩ := hsurrogate
              rw [h.surrogate hhigh]
              exact ih (.surrogate hrange)
            · rw [if_neg hsurrogate, decodeFrom_afresh]
              refine .replaced (h.illFormed fun x hx => ?_) hfresh
              obtain rfl : b = x := Option.some.inj hx
              exact hb

/-- **What the decoder gives is what the octets stand for**, and nothing else is. -/
theorem decodes_iff {octets : List UInt8} {cs : List Char} :
    Decodes octets cs ↔ cs = decode octets := by
  have hdecode : Decodes octets (decode octets) := decodes_decodeFrom .between octets
  exact ⟨fun h => h.unique hdecode, fun h => h ▸ hdecode⟩

/-! ### Input in pieces -/

/-- A decoder that has read a part goes on with the rest. -/
theorem decodeFrom_append (state : State) (octets more : List UInt8) :
    decodeFrom state (octets ++ more) =
      (run state octets).2 ++ decodeFrom (run state octets).1 more := by
  induction octets generalizing state with
  | nil => rfl
  | cons b octets ih => rw [List.cons_append, decodeFrom_cons, ih, run, List.append_assoc]

end TerminalConfig.Text.Utf8
