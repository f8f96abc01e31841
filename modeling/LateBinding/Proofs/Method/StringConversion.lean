import LateBinding.Proofs.Machine.Conversion
import LateBinding.Proofs.Method.Likeness

/-! # Conversion to a string

With the built-in methods only, strings alone have a method that converts them to strings; an object
may have a field to be read in its place. What a value stands for stays the same as long as the
fields do.
-/

namespace LateBinding

open Eval

variable {m m' : Machine} {v : Value} {o : Object}

namespace Machine

theorem lastDefined_to_str {cls : String} (hcls : cls ≠ "String") :
    Undefined Builtin.definitions cls "to_str" :=
  undefined_of_classes ["String"] (by decide) (by decide) (by simpa using hcls)

def converter? (m : Machine) (o : Object) : Option Method :=
  let s := (m.symbols.intern "to_str").1
  (m.methods.get? o.cls s).or (m.methods.get? m.objectClass s)

/-- The string in a field of an object. One that passes for a string has the method of strings
instead, which refuses it. -/
def stringOfObject (m : Machine) (o : Object) : Except RunError Str :=
  if (m.converter? o).isSome then .error (.wrongArgument o.cls.name "String")
  else
    match m.heap.field? o (m.symbols.intern "to_str").1 with
    | some (.string t) => .ok t
    | some answer => .error (.badConversion o.cls.name "String" "to_str" answer.className)
    | none => .error (.noConversion o.cls.name "String")

def stringOf (m : Machine) : Value → Except RunError Str
  | .string t => .ok t
  | .object o => m.stringOfObject o
  | v => .error (.noConversion (implicitName v) "String")

def stringAnswered (v : Value) : Value → Eval Str
  | .string t => pure t
  | answer => badConversion v answer "String" "to_str"

theorem toStr_eq_ask (hstring : ∀ t, v ≠ .string t) (send : Sender) :
    toStr send v = ask send v "to_str" (stringAnswered v)
      (fail (.noConversion (implicitName v) "String")) := by
  cases v with
  | string t => exact absurd rfl (hstring t)
  | _ => rfl

theorem interns_countHit (m : Machine) : m.Interns m.countHit := ⟨m.extends_countHit, rfl, rfl⟩

section Converted

variable (hd : m.Defines Builtin.definitions)

include hd

theorem Defines.registered_to_str : "to_str" ∈ m.symbols.registered := by
  have hfound : lastDefined Builtin.definitions "String" "to_str" =
      some (.builtin (.string .toS)) := by
    decide
  exact (hd.registered (mem_of_lastDefined hfound)).2

theorem Defines.intern_to_str :
    intern "to_str" m = .ok (m.symbols.intern "to_str").1 m.countHit := by
  have hintern : intern "to_str" m = .ok (m.symbols.intern "to_str").1
      ((intern "to_str").after m) := rfl
  rw [hintern, after_intern hd.registered_to_str]

theorem Defines.run_converter {method : Method} (hfound : m.converter? o = some method)
    (host : Host) (send : Sender) :
    method.run host send (.object o) .empty = fail (.wrongArgument o.cls.name "String") := by
  obtain ⟨hname, hmem⟩ := hd.symbol_of_intern "to_str"
  rw [SymbolTable.intern_of_mem_registered hd.registered_to_str] at hmem
  have hd' := hd.extends m.extends_countHit
  obtain ⟨cls, hdef⟩ : ∃ cls, ((cls, (m.symbols.intern "to_str").1.name), method) ∈
    Builtin.definitions := by
    rcases Option.or_eq_some_iff.mp hfound with h | ⟨-, h⟩
    · exact hd'.mem_of_get? (.inl hmem) h
    · exact hd'.mem_of_get? (.inl hmem) h
  obtain ⟨b, rfl, hall⟩ := Builtin.mem_all_of_definition hdef
  obtain rfl := method_of_toStr _ hall hname
  rfl

theorem Defines.respondsToName_object (o : Object) : respondsToName (.object o) "to_str" m =
    .ok ((m.converter? o).isSome || (m.heap.field? o (m.symbols.intern "to_str").1).isSome)
      m.countHit := by
  have hfind : findMethod (.object o) (m.symbols.intern "to_str").1 m.countHit =
      .ok (m.converter? o) m.countHit := rfl
  unfold respondsToName
  rw [bind_of_ok hd.intern_to_str]
  unfold respondsTo
  rw [bind_of_ok hfind]
  cases m.converter? o <;> rfl

/-- An object that responds is sent the message, with the symbols there are already. -/
theorem Defines.byName_to_str (o : Object) (host : Host) (n : ℕ) :
    (sendWithin host (n + 1)).byName (.object o) "to_str" .empty m.countHit =
      answer host (sendWithin host n) (.object o) (m.symbols.intern "to_str").1 .empty
        (m.converter? o) m.countHit.countHit := by
  have hintern := (hd.extends m.extends_countHit).intern_to_str
  rw [intern_countHit] at hintern
  have hfind : findMethod (.object o) (m.symbols.intern "to_str").1 m.countHit.countHit =
      .ok (m.converter? o) m.countHit.countHit := rfl
  unfold Sender.byName
  rw [bind_of_ok hintern]
  exact dispatch_of_findMethod hfind

theorem Defines.toStr_object (o : Object) (host : Host) (n : ℕ) : ∃ m', m.Interns m' ∧
    toStr (sendWithin host (n + 1)) (.object o) m = ofExcept (m.stringOfObject o) m' := by
  have htwice := m.interns_countHit.trans m.countHit.interns_countHit
  rw [toStr_eq_ask (by simp), ask, bind_of_ok (hd.respondsToName_object o)]
  unfold stringOfObject
  cases hfound : m.converter? o with
  | some method =>
    refine ⟨_, htwice, ?_⟩
    have hsend := hd.byName_to_str o host n
    rw [hfound] at hsend
    change _ = method.run _ _ _ _ _ at hsend
    rw [hd.run_converter hfound] at hsend
    exact bind_of_error hsend
  | none =>
    cases hfield : m.heap.field? o (m.symbols.intern "to_str").1 with
    | none => exact ⟨_, m.interns_countHit, rfl⟩
    | some w =>
      refine ⟨_, htwice, ?_⟩
      have hsend := hd.byName_to_str o host n
      rw [hfound] at hsend
      have hread : m.countHit.countHit.heap.field? o (m.symbols.intern "to_str").1 = some w :=
        hfield
      refine (bind_of_ok (hsend.trans (accessField_of_field hread))).trans ?_
      cases w <;> rfl

theorem Defines.toStr_of_silent (hobject : ∀ o, v ≠ .object o) (hstring : ∀ t, v ≠ .string t)
    (send : Sender) :
    toStr send v m = .error (.error (.noConversion (implicitName v) "String"))
      (m.withSymbols v "to_str") := by
  have hcls : v.className ≠ "String" := by
    cases v with
    | string t => exact absurd rfl (hstring t)
    | object o => exact absurd rfl (hobject o)
    | bool b => cases b <;> decide
    | _ => simp [Value.className]
  have hknows : m.Knows v := by
    cases v with
    | object o => exact absurd rfl (hobject o)
    | _ => trivial
  have hfield : hasFieldNamed m.heap v "to_str" = false := by
    cases v with
    | object o => exact absurd rfl (hobject o)
    | _ => rfl
  rw [toStr_eq_ask hstring]
  exact hd.ask_of_silent _ _ hknows (lastDefined_to_str hcls) hfield send

/-- With the built-in methods only, a conversion comes to the string that the value stands for. -/
theorem Defines.toStr_eq (v : Value) (host : Host) (n : ℕ) : ∃ m', m.Interns m' ∧
    toStr (sendWithin host (n + 1)) v m = ofExcept (m.stringOf v) m' := by
  cases v with
  | string t => exact ⟨m, .refl m, rfl⟩
  | object o => exact hd.toStr_object o host n
  | _ => exact ⟨_, interns_withSymbols m _ "to_str", hd.toStr_of_silent (by simp) (by simp) _⟩

end Converted

structure Later (m m' : Machine) : Prop where
  keeps : m.Extends m'
  fields : m'.heap.objects = m.heap.objects

theorem Later.refl (m : Machine) : m.Later m := ⟨Frame.refl m, rfl⟩

theorem Later.trans {m'' : Machine} (h : m.Later m') (h' : m'.Later m'') : m.Later m'' :=
  ⟨Frame.trans h.keeps h'.keeps, h'.fields.trans h.fields⟩

theorem Interns.later (h : m.Interns m') : m.Later m' := ⟨h.keeps, by rw [h.heap]⟩

theorem Later.stringOf_eq (h : m.Later m') (hd : m.Defines Builtin.definitions) (v : Value) :
    m'.stringOf v = m.stringOf v := by
  have hsymbol : (m'.symbols.intern "to_str").1 = (m.symbols.intern "to_str").1 := by
    obtain ⟨s, hs⟩ := Option.isSome_iff_exists.mp hd.registered_to_str
    rw [SymbolTable.intern_eq_of_lookup? hs,
      SymbolTable.intern_eq_of_lookup? (h.keeps.symbols.lookup? hd.canonical hs)]
  cases v with
  | object o =>
    have hconverter : m'.converter? o = m.converter? o := by
      unfold converter?
      rw [hsymbol, h.keeps.methods, h.keeps.objectClass]
    have hfield : m'.heap.field? o (m'.symbols.intern "to_str").1 =
        m.heap.field? o (m.symbols.intern "to_str").1 := by
      unfold Heap.field? Heap.fields
      rw [hsymbol, h.fields]
    change m'.stringOfObject o = m.stringOfObject o
    unfold stringOfObject
    rw [hconverter, hfield]
  | _ => rfl

end Machine

end LateBinding
