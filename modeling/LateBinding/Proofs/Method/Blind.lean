import LateBinding.Proofs.Machine.Effect

/-! # Blindness to the strings of symbols

Which symbols have a string of their own already plays no part in a search, nor in the conversion to
a string that it may start with.
-/

namespace LateBinding

open Eval

variable {m : Machine} {host : Host} {send : Sender} {receiver : Value} {s : Symbol} {α β : Type}

namespace Machine

def withStrings (m : Machine) (st : StringStore) : Machine :=
  { m with heap := { m.heap with strings := st } }

end Machine

namespace Eval

def withStrings (st : StringStore) : EStateM.Result Fault Machine α → EStateM.Result Fault Machine α
  | .ok a m => .ok a (m.withStrings st)
  | .error e m => .error e (m.withStrings st)

/-- The store of strings plays no part, and it stays as it is. -/
def Blind (x : Eval α) : Prop :=
  ∀ m, m.Defines Builtin.definitions → ∀ st, x (m.withStrings st) = withStrings st (x m)

theorem blind_pure (a : α) : Blind (pure a) := fun _ _ _ => rfl

theorem blind_throw (e : Fault) : Blind (throw e : Eval α) := fun _ _ _ => rfl

theorem blind_fail (e : RunError) : Blind (fail e : Eval α) := blind_throw _

theorem blind_orPanic (a : Option α) : Blind (orPanic a) := by
  cases a with
  | some a => exact blind_pure a
  | none => exact blind_throw _

theorem blind_read {f : Machine → α} (hf : ∀ m st, f (m.withStrings st) = f m) :
    Blind (do let m ← get; return f m) := by
  intro m _ st
  change EStateM.Result.ok (f (m.withStrings st)) _ = .ok (f m) _
  rw [hf]

theorem blind_intern (name : String) : Blind (intern name) := fun _ _ _ => rfl

theorem blind_fresh : Blind (onHeap (·.fresh)) := fun _ _ _ => rfl

theorem blind_setLastMatch (v : Value) : Blind (setLastMatch v) := fun _ _ _ => rfl

/-- What comes first must keep the methods, for what follows to find them. -/
theorem Blind.bind {x : Eval α} {f : α → Eval β} {P : α → Prop} (hx : Blind x)
    (hmeets : x.Meets (.steady True) P) (hf : ∀ a, Blind (f a)) : Blind (x >>= f) := by
  intro m hd st
  have hstep := hmeets.step_after hd
  cases hxm : x m with
  | ok a m₁ =>
    rw [after_of_ok hxm] at hstep
    have hst : x (m.withStrings st) = .ok a (m₁.withStrings st) := by
      rw [hx m hd st, hxm]
      rfl
    rw [bind_of_ok hst, bind_of_ok hxm]
    exact hf a m₁ (hd.extends hstep.keeps) st
  | error e m₁ =>
    have hst : x (m.withStrings st) = .error e (m₁.withStrings st) := by
      rw [hx m hd st, hxm]
      rfl
    rw [bind_of_error hst, bind_of_error hxm]
    rfl

theorem blind_classOf (v : Value) : Blind (classOf v) := by
  cases v with
  | object o => exact blind_pure _
  | _ => exact blind_intern _

theorem blind_findMethod (receiver : Value) (name : Symbol) : Blind (findMethod receiver name) :=
  (blind_classOf receiver).bind (meets_classOf receiver) fun _ => blind_read fun _ _ => rfl

theorem blind_respondsToName (receiver : Value) (name : String) :
    Blind (respondsToName receiver name) := by
  refine (blind_intern name).bind (meets_intern name) fun s => ?_
  refine (blind_findMethod receiver s).bind (meets_findMethod receiver s) fun found => ?_
  cases found with
  | some _ => exact blind_pure _
  | none =>
    intro m _ st
    cases receiver <;> rfl

/-- Of the methods for the conversion to a string there is only the one that answers the string
itself. -/
theorem method_of_toStr : ∀ e ∈ Builtin.all, e.2.1 = "to_str" → e.2.2 = .string .toS := by decide

theorem blind_withoutMethod (receiver : Value) {s : Symbol} (hs : writtenField? s.name = none) :
    Blind (Machine.withoutMethod receiver s .empty) := by
  cases receiver with
  | object o =>
    intro m _ st
    change accessField o s .empty (m.withStrings st) = withStrings st (accessField o s .empty m)
    cases hfield : m.heap.field? o s with
    | some v =>
      have hfield' : (m.withStrings st).heap.field? o s = some v := hfield
      rw [accessField_of_field hfield', accessField_of_field hfield]
      rfl
    | none =>
      have hfield' : (m.withStrings st).heap.field? o s = none := hfield
      rw [accessField_of_missing hfield' hs, accessField_of_missing hfield hs]
      rfl
  | _ => exact blind_fail _

theorem blind_dispatch_toStr (receiver : Value) (hd : m.Defines Builtin.definitions)
    (hs : s ∈ m.symbols.symbols) (hname : s.name = "to_str") (st : StringStore) :
    dispatch host send receiver s .empty (m.withStrings st) =
      withStrings st (dispatch host send receiver s .empty m) := by
  obtain ⟨found, hfind, hdefined, -⟩ := hd.exists_findMethod (.inl hs) receiver
  have hclass := (meets_classOf (C := .steady True) receiver).step_after hd
  have hfind' : findMethod receiver s (m.withStrings st) =
      .ok found (((classOf receiver).after m).withStrings st) := by
    rw [blind_findMethod receiver s m hd st, hfind]
    rfl
  rw [Machine.dispatch_of_findMethod hfind, Machine.dispatch_of_findMethod hfind']
  cases found with
  | none =>
    refine blind_withoutMethod receiver ?_ _ (hd.extends hclass.keeps) st
    rw [hname]
    decide
  | some method =>
    obtain ⟨cls, hmem⟩ := hdefined method rfl
    obtain ⟨b, rfl, hall⟩ := Builtin.mem_all_of_definition hmem
    obtain rfl := method_of_toStr _ hall hname
    cases receiver <;> rfl

theorem blind_byName_toStr (n : ℕ) (receiver : Value) :
    Blind ((sendWithin host n).byName receiver "to_str" .empty) := by
  cases n with
  | zero => exact (blind_intern _).bind (meets_intern _) fun _ => blind_throw _
  | succ n =>
    intro m hd st
    obtain ⟨hsname, hsmem⟩ := hd.symbol_of_intern "to_str"
    exact blind_dispatch_toStr receiver (hd.extends (keeps_intern "to_str" m)) hsmem hsname st

theorem blind_toStr (n : ℕ) (v : Value) : Blind (toStr (sendWithin host n) v) := by
  have hsends := Contract.sends_steady host n True
  unfold toStr
  split
  · exact blind_pure _
  · refine (blind_respondsToName v _).bind (meets_respondsToName v _) fun answers => ?_
    cases answers with
    | false => exact blind_fail _
    | true =>
      have hargs : ∀ w ∈ Args.empty.items, (Contract.steady True).value w := fun _ _ => trivial
      have hmeets := hsends.convert (v := v) trivial "to_str" (by decide) hargs (by simp)
      refine (blind_byName_toStr n v).bind hmeets fun answer => ?_
      split
      · exact blind_pure _
      · exact blind_fail _

end Eval

namespace StringMethod

theorem maySet : (Contract.steady True).MaySet := Contract.maySet_steady trivial

theorem blind_register (v : Value) (a : α) : Blind (do setLastMatch v; return a) :=
  (blind_setLastMatch v).bind (meets_setLastMatch maySet trivial) fun _ => blind_pure a

theorem blind_lookFor (r : Regexp) (text : String) : Blind (lookFor r text) := by
  unfold lookFor
  split
  · exact blind_fresh.bind meets_fresh fun id => blind_register _ _
  · exact blind_register _ _

theorem blind_matchOffset (text : String) (pattern : Value) : Blind (matchOffset text pattern) := by
  unfold matchOffset
  cases pattern with
  | regexp r =>
    refine (blind_lookFor r text).bind (meets_lookFor maySet r text) fun found => ?_
    cases found with
    | none => exact blind_pure _
    | some m =>
      refine (blind_orPanic _).bind (meets_orPanic (.inl trivial)) fun n => ?_
      cases n <;> exact blind_pure _
  | _ => exact blind_fail _

theorem blind_lookAtFront (r : Regexp) (text : String) : Blind (lookAtFront r text) := by
  unfold lookAtFront
  split
  · refine blind_fresh.bind meets_fresh fun id => ?_
    refine (blind_orPanic _).bind (meets_orPanic (.inl trivial)) fun n => ?_
    split
    · exact blind_register _ _
    · exact blind_register _ _
  · exact blind_register _ _

theorem blind_anyAtFront (n : ℕ) (text : String) (patterns : List Value) :
    Blind (anyAtFront (sendWithin host n) text patterns) := by
  induction patterns with
  | nil => exact blind_pure _
  | cons v rest ih =>
    cases v with
    | regexp r =>
      unfold anyAtFront
      refine (blind_lookAtFront r text).bind (meets_lookAtFront maySet r text) fun found => ?_
      cases found with
      | true => exact blind_pure _
      | false => exact ih
    | _ =>
      unfold anyAtFront
      refine (blind_toStr n _).bind (meets_toStr (Contract.sends_steady host n True) trivial)
        fun start => ?_
      split
      · exact blind_pure _
      · exact ih

theorem blind_anyAtEnd (n : ℕ) (text : String) (patterns : List Value) :
    Blind (anyAtEnd (sendWithin host n) text patterns) := by
  induction patterns with
  | nil => exact blind_pure _
  | cons v rest ih =>
    unfold anyAtEnd
    refine (blind_toStr n v).bind (meets_toStr (Contract.sends_steady host n True) trivial)
      fun tail => ?_
    split
    · exact blind_pure _
    · exact ih

end StringMethod

end LateBinding
