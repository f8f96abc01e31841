import LateBinding.Proofs.Machine.Message
import LateBinding.Proofs.Machine.Responding

/-! # Conversion to an integer

A value is asked for a conversion: it is sent the message if it responds to it, and the answer is
looked at. With the built-in methods only, floats are the only values besides integers that convert
themselves to integers; an object may have a field to be read in place of a method. A conversion
then changes nothing but that names and classes become symbols.
-/

namespace LateBinding

open Eval

variable {m m' m'' : Machine} {defs : List Definition} {v w : Value} {o : Object} {message : String}
  {α : Type}

def Double.integerOf (d : Double) : Except RunError Int64 :=
  match d.truncate? with
  | some n =>
    if IsWord n then .ok (.ofInt n)
    else .error (.outOfInteger d.toText)
  | none => .error (.outOfInteger d.toText)

/-- The integer in a field of an object. One that passes for a number has a method of numbers
instead, which refuses it. -/
def Heap.integerOfObject (h : Heap) (o : Object) : Except RunError Int64 :=
  if o.cls.name ∈ ["Integer", "Float"] then .error (.wrongArgument o.cls.name o.cls.name)
  else
    match h.fieldNamed? o "to_int" with
    | some (.integer n) => .ok n
    | some answer => .error (.badConversion o.cls.name "Integer" "to_int" answer.className)
    | none => .error (.noConversion o.cls.name "Integer")

def Heap.integerOf (h : Heap) : Value → Except RunError Int64
  | .integer n => .ok n
  | .nil => .error .nilToInteger
  | .float d => d.integerOf
  | .object o => h.integerOfObject o
  | v => .error (.noConversion (implicitName v) "Integer")

namespace Machine

structure Interns (m m' : Machine) : Prop where
  keeps : m.Extends m'
  heap : m'.heap = m.heap
  register : m'.lastMatch = m.lastMatch

theorem Interns.refl (m : Machine) : m.Interns m := ⟨Frame.refl m, rfl, rfl⟩

theorem Interns.trans (h : m.Interns m') (h' : m'.Interns m'') : m.Interns m'' :=
  ⟨Frame.trans h.keeps h'.keeps, h'.heap.trans h.heap, h'.register.trans h.register⟩

theorem Interns.knows (h : m.Interns m') (hv : m.Knows v) : m'.Knows v :=
  hv.of_extends h.keeps h.heap

theorem interns_withSymbols (m : Machine) (v : Value) (name : String) :
    m.Interns (m.withSymbols v name) :=
  ⟨m.extends_withSymbols v name, m.heap_withSymbols v name, by cases v <;> rfl⟩

theorem undefined_of_classes (classes : List String)
    (hclasses : ∀ d ∈ defs, d.1.2 = message → d.1.1 ∈ classes)
    (hobject : Builtin.objectClass ∉ classes) {cls : String} (hcls : cls ∉ classes) :
    Undefined defs cls message := by
  have hnone : ∀ c ∉ classes, lastDefined defs c message = none := by
    intro c hc
    rw [Option.eq_none_iff_forall_ne_some]
    intro method hfound
    exact hc (hclasses _ (mem_of_lastDefined hfound) rfl)
  exact ⟨hnone cls hcls, hnone _ hobject⟩

/-- A value that responds to the message is sent it, and something is made of the answer. -/
def ask (send : Sender) (v : Value) (message : String) (answered : Value → Eval α)
    (silent : Eval α) : Eval α := do
  if ← respondsToName v message then answered (← send.byName v message .empty)
  else silent

section Ask

variable (hd : m.Defines defs) (host : Host) (n : ℕ) (answered : Value → Eval α) (silent : Eval α)

include hd

theorem Defines.ask_of_silent (hknows : m.Knows v) (hnone : Undefined defs v.className message)
    (hfield : hasFieldNamed m.heap v message = false) (send : Sender) :
    ask send v message answered silent m = silent (m.withSymbols v message) := by
  unfold ask
  rw [bind_of_ok (hd.respondsToName_eq hknows), hnone.1, hnone.2, hfield]
  rfl

theorem Defines.ask_of_responds (hknows : m.Knows v)
    (hresponds : (lastDefined defs v.className message).isSome = true ∨
      hasFieldNamed m.heap v message = true)
    (send : Sender) :
    ask send v message answered silent m =
      (send.byName v message .empty >>= answered) (m.withSymbols v message) := by
  unfold ask
  rw [bind_of_ok (hd.respondsToName_eq hknows), if_pos]
  rw [Bool.or_eq_true, Option.isSome_or, Bool.or_eq_true]
  exact hresponds.imp_left .inl

/-- Finding out whether there is a method makes the same symbols as running it. -/
theorem Defines.ask_of_method (hknows : m.Knows v) {method : Method}
    (hfound : lastDefined defs v.className message = some method) :
    ∃ m', m.Interns m' ∧ ask (sendWithin host (n + 1)) v message answered silent m =
      (method.run host (sendWithin host n) v .empty >>= answered) m' := by
  have hfirst := interns_withSymbols m v message
  have hsecond := interns_withSymbols (m.withSymbols v message) v message
  have hreply : reply host n v message .empty (m.withSymbols v message) = _ :=
    ((hd.extends hfirst.keeps).answers (hfirst.knows hknows)).own method hfound
  refine ⟨_, hfirst.trans hsecond, ?_⟩
  rw [hd.ask_of_responds answered silent hknows (.inl (by rw [hfound]; rfl))]
  exact bind_congr_at hreply

theorem Defines.ask_of_field (hknows : m.Knows (.object o))
    (hnone : Undefined defs o.cls.name message) (hfield : m.heap.fieldNamed? o message = some w) :
    ∃ m', m.Interns m' ∧ ask (sendWithin host (n + 1)) (.object o) message answered silent m =
      answered w m' := by
  have hfirst := interns_withSymbols m (.object o) message
  have hsecond := interns_withSymbols (m.withSymbols (.object o) message) (.object o) message
  have hread : reply host n (.object o) message .empty (m.withSymbols (.object o) message) = _ :=
    ((hd.extends hfirst.keeps).answers (hfirst.knows hknows)).read hnone o rfl w
    (by rw [hfirst.heap, hfield])
  rw [if_pos (show Args.empty.size = 0 from rfl)] at hread
  refine ⟨_, hfirst.trans hsecond, ?_⟩
  rw [hd.ask_of_responds answered silent hknows (.inr (by rw [hasFieldNamed, hfield]; rfl))]
  exact bind_of_ok hread

end Ask

def integerAnswered (v : Value) : Value → Eval Int64
  | .integer n => pure n
  | answer => badConversion v answer "Integer" "to_int"

theorem toInt_eq_ask (hinteger : ∀ i, v ≠ .integer i) (hnil : v ≠ .nil) (send : Sender) :
    toInt send v = ask send v "to_int" (integerAnswered v)
      (fail (.noConversion (implicitName v) "Integer")) := by
  cases v with
  | integer i => exact absurd rfl (hinteger i)
  | nil => exact absurd rfl hnil
  | _ => rfl

theorem lastDefined_to_int {cls : String} (hcls : cls ∉ ["Integer", "Float"]) :
    Undefined Builtin.definitions cls "to_int" :=
  undefined_of_classes ["Integer", "Float"] (by decide) (by decide) hcls

theorem lastDefined_to_int_integer :
    lastDefined Builtin.definitions "Integer" "to_int" = some (.builtin (.integer .toI)) := by
  decide

theorem lastDefined_to_int_float :
    lastDefined Builtin.definitions "Float" "to_int" = some (.builtin (.float .toI)) := by
  decide

section BuiltIn

variable (hd : m.Defines Builtin.definitions) (host : Host) (n : ℕ)

include hd

theorem Defines.toInt_of_silent (hknows : m.Knows v) (hinteger : ∀ i, v ≠ .integer i)
    (hnil : v ≠ .nil) (hcls : v.className ∉ ["Integer", "Float"])
    (hfield : hasFieldNamed m.heap v "to_int" = false) (send : Sender) : toInt send v m =
      .error (.error (.noConversion (implicitName v) "Integer")) (m.withSymbols v "to_int") := by
  rw [toInt_eq_ask hinteger hnil]
  exact hd.ask_of_silent _ _ hknows (lastDefined_to_int hcls) hfield send

theorem Defines.toInt_float (d : Double) : ∃ m', m.Interns m' ∧
    toInt (sendWithin host (n + 1)) (.float d) m = Eval.ofExcept d.integerOf m' := by
  have hwhole : FloatMethod.wholeNumber d = Eval.ofExcept (d.integerOf.map Value.integer) := by
    unfold FloatMethod.wholeNumber Double.integerOf
    cases d.truncate? with
    | none => rfl
    | some k =>
      dsimp only
      split <;> rfl
  rw [toInt_eq_ask (by simp) (by simp)]
  obtain ⟨m', hm', heq⟩ :=
    hd.ask_of_method host n (integerAnswered (.float d)) _ (v := .float d) trivial
    lastDefined_to_int_float
  refine ⟨m', hm', heq.trans ?_⟩
  change (FloatMethod.wholeNumber d >>= integerAnswered (.float d)) m' = _
  rw [hwhole]
  cases d.integerOf <;> rfl

theorem Defines.toInt_of_cls (hknows : m.Knows (.object o))
    (hcls : o.cls.name ∈ ["Integer", "Float"]) : ∃ m', m.Interns m' ∧
    toInt (sendWithin host (n + 1)) (.object o) m =
      .error (.error (.wrongArgument o.cls.name o.cls.name)) m' := by
  obtain ⟨method, hfound, hrun⟩ : ∃ method, lastDefined Builtin.definitions o.cls.name "to_int" =
    some method ∧
      ∀ m', method.run host (sendWithin host n) (.object o) .empty m' =
        .error (.error (.wrongArgument o.cls.name o.cls.name)) m' := by
    simp only [List.mem_cons, List.not_mem_nil, or_false] at hcls
    rcases hcls with hcls | hcls
    · refine ⟨_, hcls ▸ lastDefined_to_int_integer, fun m' => ?_⟩
      change EStateM.Result.error (Fault.error (.wrongArgument o.cls.name "Integer")) m' = _
      rw [hcls]
    · refine ⟨_, hcls ▸ lastDefined_to_int_float, fun m' => ?_⟩
      change EStateM.Result.error (Fault.error (.wrongArgument o.cls.name "Float")) m' = _
      rw [hcls]
  rw [toInt_eq_ask (by simp) (by simp)]
  obtain ⟨m', hm', heq⟩ := hd.ask_of_method host n _ _ hknows hfound
  exact ⟨m', hm', heq.trans (bind_of_error (hrun m'))⟩

theorem Defines.toInt_object (hknows : m.Knows (.object o)) : ∃ m', m.Interns m' ∧
    toInt (sendWithin host (n + 1)) (.object o) m =
      Eval.ofExcept (m.heap.integerOfObject o) m' := by
  unfold Heap.integerOfObject
  split
  · next hcls => exact hd.toInt_of_cls host n hknows hcls
  · next hcls =>
    cases hfield : m.heap.fieldNamed? o "to_int" with
    | some answer =>
      rw [toInt_eq_ask (by simp) (by simp)]
      obtain ⟨m', hm', heq⟩ := hd.ask_of_field host n (integerAnswered (.object o)) _ hknows
        (lastDefined_to_int hcls) hfield
      refine ⟨m', hm', heq.trans ?_⟩
      cases answer <;> rfl
    | none =>
      have hshown : hasFieldNamed m.heap (.object o) "to_int" = false := by
        rw [hasFieldNamed, hfield]; rfl
      exact ⟨_, interns_withSymbols m _ _,
        hd.toInt_of_silent hknows (by simp) (by simp) hcls hshown _⟩

/-- With the built-in methods only, a conversion comes to what the value stands for. -/
theorem Defines.toInt_eq (hv : m.Knows v) : ∃ m', m.Interns m' ∧
    toInt (sendWithin host (n + 1)) v m = ofExcept (m.heap.integerOf v) m' := by
  cases v with
  | integer i => exact ⟨m, .refl m, rfl⟩
  | nil => exact ⟨m, .refl m, rfl⟩
  | float d => exact hd.toInt_float host n d
  | object o => exact hd.toInt_object host n hv
  | bool b =>
    refine ⟨_, interns_withSymbols m _ _, hd.toInt_of_silent hv (by simp) (by simp) ?_ rfl _⟩
    cases b <;> decide
  | _ =>
    refine ⟨_, interns_withSymbols m _ _, hd.toInt_of_silent hv (by simp) (by simp) ?_ rfl _⟩
    simp [Value.className]

end BuiltIn

end Machine

end LateBinding
