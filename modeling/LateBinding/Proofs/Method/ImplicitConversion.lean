import LateBinding.Proofs.Method.StringConversion

/-! # Implicit conversions, completely

With the built-in methods only, what a value is converted to is told by the value and the fields
that it has: a value of the wanted kind is itself, floats have an integer part, and an object is
read in the field with the name of the conversion, unless its class has a method of that name, which
refuses it.
-/

namespace LateBinding

open Eval Machine

variable {m m' : Machine} {host : Host} {n : ℕ} {v w : Value} {o : Object} {r : ℕ} {t : Str}
  {i : Int64} {d : Double} {conversion : String} {strict : Bool} {α : Type}

/-- An object whose class has no method for the conversion, with a value for it in a field. -/
def Heap.Holds (h : Heap) (conversion : String) (v w : Value) : Prop :=
  ∃ o, v = .object o ∧ Undefined Builtin.definitions o.cls.name conversion ∧
  h.fieldNamed? o conversion = some w

def Heap.HasArray (h : Heap) (v : Value) (r : ℕ) : Prop :=
  v = .array r ∨ h.Holds "to_ary" v (.array r)

def Heap.HasString (h : Heap) (v : Value) (t : Str) : Prop :=
  v = .string t ∨ h.Holds "to_str" v (.string t)

def Double.HasInteger (d : Double) (i : Int64) : Prop :=
  ∃ k, d.truncate? = some k ∧ IsWord k ∧ i = .ofInt k

def Heap.HasInteger (h : Heap) (v : Value) (i : Int64) : Prop :=
  v = .integer i ∨ (∃ d, v = .float d ∧ d.HasInteger i) ∨ h.Holds "to_int" v (.integer i)

def Value.PassesFor (v : Value) (conversion : String) : Prop :=
  ∃ o, v = .object o ∧ (lastDefined Builtin.definitions o.cls.name conversion).isSome = true

/-- A value that no array is made of: it passes for one, or it answers something else and no other
is made for it. -/
def Heap.RefusesArray (h : Heap) (strict : Bool) (v : Value) : Prop :=
  v.PassesFor "to_ary" ∨ strict = true ∧ ∃ w, h.Holds "to_ary" v w ∧ w ≠ .nil ∧ ∀ r, w ≠ .array r

def Value.refusal : Value → ErrorKind
  | .float _ => .argument
  | _ => .typeMismatch

/-- The computation answers what is had, and fails when there is nothing; nothing but symbols is
made. -/
structure Eval.Yields (x : Eval α) (m : Machine) (has : α → Prop) (kind : ErrorKind) : Prop where
  answers : ∀ a, has a → ∃ m', m.Interns m' ∧ x m = .ok a m'
  fails : (∀ a, ¬ has a) → ∃ e m', m.Interns m' ∧ x m = .error (.error e) m' ∧ e.kind = kind

/-- A value is converted to an array: the one that it has, or else a new one around it, unless it
refuses. Nothing but symbols and that array is made. -/
structure Eval.YieldsArray (x : Eval ℕ) (m : Machine) (v : Value) (strict : Bool) : Prop where
  answers : ∀ r, m.heap.HasArray v r → ∃ m', m.Interns m' ∧ x m = .ok r m'
  fails : m.heap.RefusesArray strict v →
    ∃ e m', m.Interns m' ∧ x m = .error (.error e) m' ∧ e.kind = .typeMismatch
  wraps : (∀ r, ¬ m.heap.HasArray v r) → ¬ m.heap.RefusesArray strict v →
    ∃ m', m.Interns m' ∧
      x m = .ok (m.heap.newArray [v]).1 { m' with heap := (m.heap.newArray [v]).2 }

theorem Heap.holds_object_iff {h : Heap} : h.Holds conversion (.object o) w ↔
    Undefined Builtin.definitions o.cls.name conversion ∧ h.fieldNamed? o conversion = some w := by
  simp [Holds]

theorem Heap.not_holds {h : Heap} (hv : ∀ o, v ≠ .object o) : ¬ h.Holds conversion v w := by
  rintro ⟨o, rfl, -⟩
  exact hv o rfl

theorem Eval.yields_of_ofExcept {x : Eval α} {a? : Except RunError α} {has : α → Prop}
    {kind : ErrorKind} (hx : ∃ m', m.Interns m' ∧ x m = ofExcept a? m')
    (hhas : ∀ a, has a ↔ a? = .ok a) (hkind : ∀ e, a? = .error e → e.kind = kind) :
    x.Yields m has kind := by
  obtain ⟨m', hm', heq⟩ := hx
  refine ⟨fun a ha => ⟨m', hm', ?_⟩, fun hnone => ?_⟩
  · rw [heq, (hhas a).mp ha]
    rfl
  · cases ha : a? with
    | ok a => exact absurd ((hhas a).mpr ha) (hnone a)
    | error e =>
      refine ⟨e, m', hm', ?_, hkind e ha⟩
      rw [heq, ha]
      rfl

theorem undefined_to_int_iff {cls : String} :
    Undefined Builtin.definitions cls "to_int" ↔ cls ∉ ["Integer", "Float"] := by
  refine ⟨fun h hcls => ?_, lastDefined_to_int⟩
  simp only [List.mem_cons, List.not_mem_nil, or_false] at hcls
  rcases hcls with rfl | rfl
  · exact absurd h.1 (by rw [lastDefined_to_int_integer]; simp)
  · exact absurd h.1 (by rw [lastDefined_to_int_float]; simp)

theorem Double.hasInteger_iff : d.HasInteger i ↔ d.integerOf = .ok i := by
  unfold HasInteger integerOf
  cases d.truncate? with
  | none => simp
  | some k =>
    dsimp only
    split
    · next hk => simp [hk, eq_comm]
    · next hk =>
      simp only [Option.some.injEq, reduceCtorEq, iff_false]
      rintro ⟨k, rfl, hword, -⟩
      exact hk hword

theorem Heap.hasInteger_iff {h : Heap} : h.HasInteger v i ↔ h.integerOf v = .ok i := by
  unfold HasInteger
  cases v with
  | integer k =>
    change _ ↔ Except.ok k = Except.ok i
    simp [not_holds, eq_comm]
  | float d =>
    change _ ↔ d.integerOf = .ok i
    simp [not_holds, Double.hasInteger_iff]
  | object o =>
    change _ ↔ h.integerOfObject o = .ok i
    rw [holds_object_iff, undefined_to_int_iff, integerOfObject]
    split
    · next hcls => simp [hcls]
    · next hcls =>
      cases h.fieldNamed? o "to_int" with
      | none => simp
      | some w => cases w <;> simp [hcls]
  | _ =>
    change _ ↔ Except.error _ = Except.ok i
    simp [not_holds]

theorem Heap.kind_of_integerOf {h : Heap} {e : RunError} (herror : h.integerOf v = .error e) :
    e.kind = v.refusal := by
  cases v with
  | integer k => cases herror
  | float d =>
    change d.integerOf = .error e at herror
    unfold Double.integerOf at herror
    split at herror
    · split at herror <;> cases herror
      rfl
    · cases herror
      rfl
  | object o =>
    change h.integerOfObject o = .error e at herror
    unfold integerOfObject at herror
    split at herror
    · cases herror
      rfl
    · split at herror <;> cases herror <;> rfl
  | _ =>
    cases herror
    rfl

theorem undefined_to_str_iff {cls : String} : Undefined Builtin.definitions cls "to_str" ↔
    cls ≠ "String" := by
  refine ⟨?_, lastDefined_to_str⟩
  rintro ⟨hown, -⟩ rfl
  exact absurd hown (by decide)

theorem Machine.kind_of_stringOf {e : RunError} (herror : m.stringOf v = .error e) :
    e.kind = .typeMismatch := by
  cases v with
  | string t => cases herror
  | object o =>
    change m.stringOfObject o = .error e at herror
    unfold stringOfObject at herror
    split at herror
    · cases herror
      rfl
    · split at herror <;> cases herror <;> rfl
  | _ =>
    cases herror
    rfl

section BuiltIn

variable (hd : m.Defines Builtin.definitions)

include hd

theorem Machine.Defines.symbol_to_str :
    (m.symbols.intern "to_str").1.name = "to_str" ∧
    (m.symbols.intern "to_str").1 ∈ m.symbols.symbols := by
  obtain ⟨s, hs⟩ := Option.isSome_iff_exists.mp hd.registered_to_str
  have hname := hd.canonical.name_of_lookup? hs
  rw [SymbolTable.intern_eq_of_lookup? hs]
  exact ⟨hname, hd.canonical.mem_symbols_iff.mpr (hname.symm ▸ hs)⟩

/-- What the machine finds for an object by symbols, told by the name of its class. -/
theorem Machine.Defines.converter?_eq (hv : m.Knows (.object o)) :
    m.converter? o = (lastDefined Builtin.definitions o.cls.name "to_str").or
      (lastDefined Builtin.definitions Builtin.objectClass "to_str") := by
  obtain ⟨hname, hmem⟩ := hd.symbol_to_str
  have hfind := hd.findMethod_of_mem hv hmem
  rw [hname] at hfind
  exact (EStateM.Result.ok.inj hfind).1

theorem Machine.Defines.hasString_iff (hv : m.Knows v) :
    m.heap.HasString v t ↔ m.stringOf v = .ok t := by
  unfold Heap.HasString
  cases v with
  | string u => simp [stringOf, Heap.not_holds, eq_comm]
  | object o =>
    obtain ⟨hname, hmem⟩ := hd.symbol_to_str
    rw [Heap.holds_object_iff, undefined_to_str_iff, stringOf, stringOfObject, hd.converter?_eq hv,
      hd.field?_eq hv.2 hmem, hname]
    by_cases hcls : o.cls.name = "String"
    · have hown : (lastDefined Builtin.definitions "String" "to_str").isSome = true := by decide
      simp [hcls, hown]
    · obtain ⟨hown, hshared⟩ := lastDefined_to_str hcls
      rw [hown, hshared]
      cases m.heap.fieldNamed? o "to_str" with
      | none => simp
      | some w => cases w <;> simp [hcls]
  | _ => simp [stringOf, Heap.not_holds]

end BuiltIn

/-- The array in a field of an object. One that passes for an array has the method of arrays
instead, which refuses it. -/
def Heap.arrayOfObject (h : Heap) (strict : Bool) (o : Object) : Except RunError (Option ℕ) :=
  if o.cls.name = "Array" then .error (.wrongArgument o.cls.name "Array")
  else
    match h.fieldNamed? o "to_ary" with
    | some (.array r) => .ok (some r)
    | none | some .nil => .ok none
    | some answer =>
      if strict then .error (.badConversion o.cls.name "Array" "to_ary" answer.className)
        else .ok none

def Heap.arrayOf (h : Heap) (strict : Bool) : Value → Except RunError (Option ℕ)
  | .array r => .ok (some r)
  | .object o => h.arrayOfObject strict o
  | _ => .ok none

namespace Eval

def arrayMade (v : Value) : Except RunError (Option ℕ) → Eval ℕ
  | .ok (some r) => pure r
  | .ok none => wrap v
  | .error e => fail e

def arrayAnswered (strict : Bool) (v : Value) : Value → Eval ℕ
  | .array r => pure r
  | .nil => wrap v
  | answer => if strict then badConversion v answer "Array" "to_ary" else wrap v

theorem toAry_eq_ask (harray : ∀ r, v ≠ .array r) (send : Sender) (strict : Bool) :
    toAry send v strict = ask send v "to_ary" (arrayAnswered strict v) (wrap v) := by
  cases v with
  | array r => exact absurd rfl (harray r)
  | _ => rfl

end Eval

theorem lastDefined_to_ary_array :
    lastDefined Builtin.definitions "Array" "to_ary" = some (.builtin (.array .toAry)) := by
  decide

theorem undefined_to_ary_iff {cls : String} : Undefined Builtin.definitions cls "to_ary" ↔
    cls ≠ "Array" := by
  constructor
  · rintro ⟨hown, -⟩ rfl
    rw [lastDefined_to_ary_array] at hown
    cases hown
  · intro hcls
    exact undefined_of_classes ["Array"] (by decide) (by decide) (by simpa using hcls)

theorem Heap.hasArray_iff {h : Heap} (strict : Bool) :
    h.HasArray v r ↔ h.arrayOf strict v = .ok (some r) := by
  unfold HasArray
  cases v with
  | array q => simp [arrayOf, not_holds, eq_comm]
  | object o =>
    rw [holds_object_iff, undefined_to_ary_iff, arrayOf, arrayOfObject]
    split
    · next hcls => simp [hcls]
    · next hcls =>
      cases h.fieldNamed? o "to_ary" with
      | none => simp
      | some w => cases w <;> cases strict <;> simp [hcls]
  | _ => simp [arrayOf, not_holds]

theorem Heap.refusesArray_iff {h : Heap} :
    h.RefusesArray strict v ↔ ∃ e, h.arrayOf strict v = .error e := by
  unfold RefusesArray Value.PassesFor
  cases v with
  | object o =>
    simp only [holds_object_iff, undefined_to_ary_iff, arrayOf, arrayOfObject]
    split
    · next hcls => simp [hcls, lastDefined_to_ary_array]
    · next hcls =>
      obtain ⟨hown, -⟩ := undefined_to_ary_iff.mpr hcls
      cases h.fieldNamed? o "to_ary" with
      | none => simp [hown]
      | some w => cases w <;> cases strict <;> simp [hcls, hown]
  | _ => simp [arrayOf, not_holds]

theorem Heap.kind_of_arrayOf {h : Heap} {e : RunError} (herror : h.arrayOf strict v = .error e) :
    e.kind = .typeMismatch := by
  cases v with
  | object o =>
    change h.arrayOfObject strict o = .error e at herror
    unfold arrayOfObject at herror
    split at herror
    · cases herror
      rfl
    · split at herror
      · cases herror
      · cases herror
      · cases herror
      · split at herror <;> cases herror
        rfl
  | _ => cases herror

section BuiltIn

variable (hd : m.Defines Builtin.definitions)

include hd

theorem Machine.Defines.toAry_object (hv : m.Knows (.object o)) (host : Host) (n : ℕ)
    (strict : Bool) : ∃ m', m.Interns m' ∧ toAry (sendWithin host (n + 1)) (.object o) strict m =
      arrayMade (.object o) (m.heap.arrayOfObject strict o) m' := by
  rw [toAry_eq_ask (by simp)]
  unfold Heap.arrayOfObject
  split
  · next hcls =>
    have hfound : lastDefined Builtin.definitions (Value.object o).className "to_ary" = _ :=
      hcls.symm ▸ lastDefined_to_ary_array
    obtain ⟨m', hm', heq⟩ := hd.ask_of_method host n (arrayAnswered strict (.object o)) _ hv hfound
    exact ⟨m', hm', heq⟩
  · next hcls =>
    have hnone := undefined_to_ary_iff.mpr hcls
    cases hfield : m.heap.fieldNamed? o "to_ary" with
    | none =>
      have hshown : hasFieldNamed m.heap (.object o) "to_ary" = false := by
        rw [hasFieldNamed, hfield]; rfl
      exact ⟨_, interns_withSymbols m _ _, hd.ask_of_silent _ _ hv hnone hshown _⟩
    | some w =>
      obtain ⟨m', hm', heq⟩ :=
        hd.ask_of_field host n (arrayAnswered strict (.object o)) _ hv hnone hfield
      refine ⟨m', hm', heq.trans ?_⟩
      cases w <;> cases strict <;> rfl

theorem Machine.Defines.toAry_eq_made (hv : m.Knows v) (host : Host) (n : ℕ) (strict : Bool) :
    ∃ m', m.Interns m' ∧ toAry (sendWithin host (n + 1)) v strict m =
      arrayMade v (m.heap.arrayOf strict v) m' := by
  have hsilent (harray : ∀ r, v ≠ .array r) (hobject : ∀ o, v ≠ .object o) :
      toAry (sendWithin host (n + 1)) v strict m = wrap v (m.withSymbols v "to_ary") := by
    have hcls : v.className ≠ "Array" := by
      cases v with
      | array r => exact absurd rfl (harray r)
      | object o => exact absurd rfl (hobject o)
      | bool b => cases b <;> decide
      | _ => simp [Value.className]
    have hfield : hasFieldNamed m.heap v "to_ary" = false := by
      cases v with
      | object o => exact absurd rfl (hobject o)
      | _ => rfl
    rw [toAry_eq_ask harray]
    exact hd.ask_of_silent _ _ hv (undefined_to_ary_iff.mpr hcls) hfield _
  cases v with
  | array r => exact ⟨m, .refl m, rfl⟩
  | object o => exact hd.toAry_object hv host n strict
  | _ => exact ⟨_, interns_withSymbols m _ _, hsilent (by simp) (by simp)⟩

theorem Machine.Defines.yieldsArray (hv : m.Knows v) (host : Host) (n : ℕ) (strict : Bool) :
    (toAry (sendWithin host (n + 1)) v strict).YieldsArray m v strict := by
  obtain ⟨m', hm', heq⟩ := hd.toAry_eq_made hv host n strict
  refine ⟨fun r hr => ⟨m', hm', ?_⟩, fun hrefuses => ?_, fun hnone hkept => ⟨m', hm', ?_⟩⟩
  · rw [heq, (Heap.hasArray_iff strict).mp hr]
    rfl
  · obtain ⟨e, he⟩ := Heap.refusesArray_iff.mp hrefuses
    refine ⟨e, m', hm', ?_, Heap.kind_of_arrayOf he⟩
    rw [heq, he]
    rfl
  · have hwrap : m.heap.arrayOf strict v = .ok none := by
      cases h : m.heap.arrayOf strict v with
      | error e => exact absurd (Heap.refusesArray_iff.mpr ⟨e, h⟩) hkept
      | ok r? =>
        cases r? with
        | none => rfl
        | some r => exact absurd ((Heap.hasArray_iff strict).mpr h) (hnone r)
    rw [heq, hwrap, ← hm'.heap]
    rfl

end BuiltIn

/-- What each implicit conversion of a value comes to, on a stack with room for one send. -/
structure Machine.Converts (host : Host) (n : ℕ) (m : Machine) (v : Value) : Prop where
  array : ∀ strict, (toAry (sendWithin host (n + 1)) v strict).YieldsArray m v strict
  string : (toStr (sendWithin host (n + 1)) v).Yields m (m.heap.HasString v) .typeMismatch
  integer : (toInt (sendWithin host (n + 1)) v).Yields m (m.heap.HasInteger v) v.refusal

/-- With the built-in methods only, implicit conversions answer what a value has and fail for lack
of it, with an error of types or, for floats, of the argument. They make nothing but symbols, and an
array around a value without one. -/
theorem Machine.Defines.converts (hd : m.Defines Builtin.definitions) (hv : m.Knows v)
    (host : Host) (n : ℕ) : m.Converts host n v where
  array := hd.yieldsArray hv host n
  string := yields_of_ofExcept (hd.toStr_eq v host n) (fun _ => hd.hasString_iff hv) fun _ =>
    kind_of_stringOf
  integer := yields_of_ofExcept (hd.toInt_eq host n hv) (fun _ => Heap.hasInteger_iff) fun _ =>
    Heap.kind_of_integerOf

/-- A point that is converted to 7, to no string, and to a new array around it. -/
theorem Machine.converts_point :
    ∃ m o, m.Defines Builtin.definitions ∧ m.Knows (.object o) ∧ o.cls.name = "Point" ∧
      (∃ m', m.Interns m' ∧ toInt (sendWithin .idle 1) (.object o) m = .ok 7 m') ∧
      (∃ e m', m.Interns m' ∧ toStr (sendWithin .idle 1) (.object o) m = .error (.error e) m' ∧
        e.kind = .typeMismatch) ∧
      ∃ m', m.Interns m' ∧ toAry (sendWithin .idle 1) (.object o) true m =
        .ok (m.heap.newArray [.object o]).1 { m' with heap :=
  (m.heap.newArray [.object o]).2 } := by
  obtain ⟨m₀, c, s, hd₀, hcmem, hcls, hsmem, hsname⟩ := exists_symbols "Point" "to_int"
  set o := (m₀.heap.newObject c [(s, .integer 7)]).1
  set m : Machine := { m₀ with heap := (m₀.heap.newObject c [(s, .integer 7)]).2 }
  have hfields : m.heap.fields o = [(s, .integer 7)] := by
    simp [m, o, Heap.newObject, Heap.fields, Entries.put]
  have hd : m.Defines Builtin.definitions := hd₀.extends (Frame.heap (R := Extends) m₀ _)
  have hknows : m.Knows (.object o) := by
    refine ⟨hcmem, fun e he => ?_⟩
    rw [hfields, List.mem_singleton] at he
    rw [he]
    exact hsmem
  replace hcls : o.cls.name = "Point" := hcls
  have hfield (name : String) :
      m.heap.fieldNamed? o name = if "to_int" = name then some (.integer 7) else none := by
    rw [Heap.fieldNamed?, hfields]
    simp [Entries.get?, hsname]
  have hinteger : m.heap.HasInteger (.object o) 7 := by
    refine .inr (.inr ⟨o, rfl, undefined_to_int_iff.mpr ?_, hfield "to_int"⟩)
    rw [hcls]
    decide
  have hstring : ∀ t, ¬ m.heap.HasString (.object o) t := by
    rintro t (ht | ht)
    · cases ht
    · rw [Heap.holds_object_iff, hfield] at ht
      cases ht.2
  have harray : m.heap.arrayOf true (.object o) = .ok none := by
    rw [Heap.arrayOf, Heap.arrayOfObject, hfield, hcls]
    rfl
  have hconverts := hd.converts hknows .idle 0
  refine ⟨m, o, hd, hknows, hcls, hconverts.integer.answers 7 hinteger,
    hconverts.string.fails hstring, ?_⟩
  refine (hconverts.array true).wraps (fun r hr => ?_) fun hrefuses => ?_
  · rw [Heap.hasArray_iff true, harray] at hr
    cases hr
  · obtain ⟨e, he⟩ := Heap.refusesArray_iff.mp hrefuses
    rw [harray] at he
    cases he

end LateBinding
