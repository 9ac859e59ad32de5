/-
Bindings as they are written.

A binding is cut at its first equals sign, and what stands before that at its first colon.  A
name without either mark therefore ends where it was meant to, and whatever the value holds
belongs to the value.  From there on each kind reads the text of its own values: truth values
are words that it knows, and 32 bits need far fewer digits than the reader of integers takes.

The main statement is that a binding gives back the variable that it was written from, and
which integers become variables of themselves.
-/
import TerminalConfig.Variable.Binding
import TerminalConfig.Proofs.Number.Decimal
import TerminalConfig.Proofs.Variable.Fitting

namespace TerminalConfig

open Text

namespace Kind

/-- A kind is known by its name. -/
theorem named?_name (kind : Kind) : named? kind.name = some kind := by
  cases kind <;> decide +kernel

theorem trimmed_name_ne_empty (kind : Kind) : trimmed kind.name ≠ "" := by
  cases kind <;> decide +kernel

/-- The name of a kind is not cut at an equals sign. -/
theorem equals_not_mem_name (kind : Kind) : '=' ∉ kind.name.toList := by
  cases kind <;> decide

end Kind

namespace Variable

/-! ### Cutting -/

theorem cutAt_append {mark : Char} {before : List Char} (h : mark ∉ before) (after : List Char) :
    cutAt mark (before ++ mark :: after) = (before, some after) := by
  have hbefore : ∀ c ∈ before, (c != mark) = true := by
    intro c hc
    rw [bne_iff_ne]
    rintro rfl
    exact h hc
  rw [cutAt, List.dropWhile_append_of_pos hbefore, List.takeWhile_append_of_pos hbefore]
  simp

theorem cutAt_of_not_mem {mark : Char} {cs : List Char} (h : mark ∉ cs) :
    cutAt mark cs = (cs, none) := by
  have hall : ∀ c ∈ cs, (c != mark) = true := by
    intro c hc
    rw [bne_iff_ne]
    rintro rfl
    exact h hc
  have hnone : (cs ++ []).dropWhile (· != mark) = [] := List.dropWhile_append_of_pos hall
  rw [List.append_nil] at hnone
  rw [cutAt, hnone]

/-! ### Names and values -/

/-- A name that a binding gives back. -/
structure IsBindable (name : String) : Prop where
  ne_empty : name ≠ ""
  trimmed_eq : trimmed name = name
  no_colon : ':' ∉ name.toList
  no_equals : '=' ∉ name.toList

/-- What a kind makes of the text of a value. -/
def ofWritten (name : String) (kind : Kind) (written : String) : Except VariableError Variable :=
  match kind with
  | .boolean =>
    match truthOf? (lowered (trimmed written)) with
    | some b => .ok ⟨name, .boolean b⟩
    | none => .error (.badBoolean written name)
  | kind => make name kind (.text written)

theorem kindOf_name (kind : Kind) : kindOf (some kind.name.toList) = .ok kind := by
  have hname : ¬(trimmed kind.name == "") = true := by simpa using kind.trimmed_name_ne_empty
  rw [kindOf, Option.getD_some, String.ofList_toList, if_neg hname, kind.named?_name]

/-- Without a kind the value is a text. -/
theorem kindOf_none : kindOf none = .ok .text := by
  have hempty : (trimmed (String.ofList []) == "") = true := by decide
  rw [kindOf, Option.getD_none]
  exact if_pos hempty

/-- Once the name and the kind are found, only the kind decides. -/
theorem ofBinding_eq_ofWritten {binding name written : String} {target : List Char}
    {kindChars : Option (List Char)} {kind : Kind} (hname : IsBindable name)
    (hvalue : cutAt '=' binding.toList = (target, some written.toList))
    (htarget : cutAt ':' target = (name.toList, kindChars)) (hkind : kindOf kindChars = .ok kind) :
    ofBinding binding = ofWritten name kind written := by
  have htrim : String.ofList (trim name.toList) = name := hname.trimmed_eq
  have hempty : ¬(name == "") = true := by simpa using hname.ne_empty
  rw [ofBinding, hvalue]
  dsimp only
  rw [htarget]
  dsimp only
  rw [htrim, String.ofList_toList, if_neg hempty, hkind]
  cases kind with
  | boolean =>
      rw [ofWritten]
      cases truthOf? (lowered (trimmed written)) <;> rfl
  | _ => rfl

/-- The kinds whose values are written in full. -/
def exactKinds : List Kind :=
  [.boolean, .int32, .uint32, .text]

/-- A value is read of its text by its own kind. -/
theorem ofWritten_spelled (name : String) {value : Value} (h : value.kind ∈ exactKinds) :
    ofWritten name value.kind value.spelled = .ok ⟨name, value⟩ := by
  cases value with
  | boolean b =>
      have htruth : truthOf? (lowered (trimmed (Value.boolean b).spelled)) = some b := by
        cases b <;> decide +kernel
      rw [Value.kind, ofWritten, htruth]
  | int32 n =>
      have hlow : -2 ^ 31 ≤ n.toInt := n.le_toInt
      have hhigh : n.toInt < 2 ^ 31 := n.toInt_lt
      have hread : (RawValue.text (toString n.toInt)).integer? = .ok n.toInt := by
        have hsize : n.toInt.natAbs < UInt32.size := by
          rw [show UInt32.size = 2 ^ 32 from rfl]
          omega
        rw [RawValue.integer?, readInteger_toString_int (length_toString_le_of_lt hsize)]
        rfl
      have hmake := make_int32 name hread ((fitsInt32_iff _).mpr ⟨hlow, hhigh⟩)
      rwa [Int32.ofInt_toInt] at hmake
  | uint32 n =>
      have hread : (RawValue.text (toString n.toNat)).integer? = .ok (n.toNat : Int) := by
        rw [RawValue.integer?, readInteger_toString (length_toString_le_of_lt n.toNat_lt_size)]
        rfl
      have hhigh := n.toNat_lt
      have hmake := make_uint32 name hread ((fitsUInt32_iff _).mpr ⟨by omega, by omega⟩)
      rwa [Int.toNat_natCast, UInt32.ofNat_toNat] at hmake
  | single x => exact absurd h (by simp [Value.kind, exactKinds])
  | double x => exact absurd h (by simp [Value.kind, exactKinds])
  | text s => rfl

/-! ### Bindings -/

/-- The binding that describes a variable. -/
def binding (v : Variable) : String :=
  v.name ++ ":" ++ v.kind.name ++ "=" ++ v.value.spelled

/-- The binding without the kind. -/
def plainBinding (v : Variable) : String :=
  v.name ++ "=" ++ v.value.spelled

theorem ofBinding_binding {v : Variable} (hname : IsBindable v.name)
    (hkind : v.kind ∈ exactKinds) : ofBinding v.binding = .ok v := by
  have htext : v.binding.toList =
      (v.name.toList ++ ':' :: v.kind.name.toList) ++ '=' :: v.value.spelled.toList := by
    simp [binding]
  have hmark : '=' ∉ v.name.toList ++ ':' :: v.kind.name.toList := by
    simp [hname.no_equals, v.kind.equals_not_mem_name]
  have hvalue : cutAt '=' v.binding.toList =
      (v.name.toList ++ ':' :: v.kind.name.toList, some v.value.spelled.toList) := by
    rw [htext, cutAt_append hmark]
  have htarget := cutAt_append hname.no_colon v.kind.name.toList
  rw [ofBinding_eq_ofWritten hname hvalue htarget (kindOf_name v.kind)]
  exact ofWritten_spelled v.name hkind

theorem ofBinding_plainBinding {v : Variable} (hname : IsBindable v.name)
    (hkind : v.kind = .text) : ofBinding v.plainBinding = .ok v := by
  have htext : v.plainBinding.toList = v.name.toList ++ '=' :: v.value.spelled.toList := by
    simp [plainBinding]
  have hvalue : cutAt '=' v.plainBinding.toList =
      (v.name.toList, some v.value.spelled.toList) := by
    rw [htext, cutAt_append hname.no_equals]
  have htarget := cutAt_of_not_mem hname.no_colon
  have hmem : v.kind ∈ exactKinds := by
    rw [hkind]
    decide
  rw [ofBinding_eq_ofWritten hname hvalue htarget kindOf_none, ← hkind]
  exact ofWritten_spelled v.name hmem

/-- **A binding gives back its variable, and an integer is kept by the variable it becomes.**

  * Take any variable of a kind without floating point, whose name is not empty, has no white
    space around it, and no colon and no equals sign in it.  Its binding is read as that very
    variable, whatever its value holds.
  * The binding of a text may leave its kind out.
  * An integer becomes a variable of itself exactly if it is not below the least one of 32 bits
    with a sign and not above the greatest one without.  Any other is refused.
  * The variable has the name and the integer, and it has a sign unless the integer is too
    large for that. -/
theorem bindings_restore :
    (∀ v : Variable, IsBindable v.name → v.kind ∈ exactKinds →
      ofBinding v.binding = .ok v ∧ (v.kind = .text → ofBinding v.plainBinding = .ok v)) ∧
    ∀ (name : String) (n : Int),
      ((∃ v, infer name (.integer n) = .ok v) ↔ -2 ^ 31 ≤ n ∧ n < 2 ^ 32) ∧
      (∀ v, infer name (.integer n) = .ok v → v.name = name ∧ v.value.integer? = some n ∧
        v.kind = if n < 2 ^ 31 then .int32 else .uint32) ∧
      ∀ e, infer name (.integer n) = .error e ↔
        ¬(-2 ^ 31 ≤ n ∧ n < 2 ^ 32) ∧ e = .beyondUInt32 n :=
  ⟨fun _ hname hkind => ⟨ofBinding_binding hname hkind, ofBinding_plainBinding hname⟩,
    fun _ _ => ⟨exists_infer_integer_iff, fun _ => infer_integer_eq_ok,
      fun _ => infer_integer_eq_error_iff⟩⟩

/-- A text with marks and blanks of its own, the least integer, and the first that has no sign. -/
theorem bindings_restore_marks :
    let title : Variable := ⟨"my title", .text " a=b: c "⟩
    let least : Variable := ⟨"n", .int32 (-2147483648)⟩
    title.binding = "my title:str= a=b: c " ∧ title.plainBinding = "my title= a=b: c " ∧
      least.binding = "n:i32=-2147483648" ∧
      ofBinding title.binding = .ok title ∧ ofBinding title.plainBinding = .ok title ∧
      ofBinding least.binding = .ok least ∧
      (∃ v, infer "n" (.integer 2147483648) = .ok v ∧ v.kind = .uint32) ∧
      infer "n" (.integer 4294967296) = .error (.beyondUInt32 4294967296) := by
  intro title least
  have htitle : IsBindable title.name := ⟨by decide, by decide +kernel, by decide, by decide⟩
  have hleast : IsBindable least.name := ⟨by decide, by decide +kernel, by decide, by decide⟩
  obtain ⟨hread, hinfer⟩ := bindings_restore
  obtain ⟨htyped, hplain⟩ := hread title htitle (by decide)
  obtain ⟨v, hv⟩ := (hinfer "n" 2147483648).1.mpr (by decide)
  refine ⟨by decide, by decide, by decide +kernel, htyped, hplain rfl,
    (hread least hleast (by decide)).1, ⟨v, hv, ?_⟩,
    ((hinfer "n" 4294967296).2.2 _).mpr ⟨by decide, rfl⟩⟩
  exact ((hinfer "n" 2147483648).2.1 v hv).2.2

end Variable

end TerminalConfig
