import LateBinding.Method.Float
import LateBinding.Method.Integer
import LateBinding.Method.Object
import LateBinding.Proofs.Machine.Contract

/-! # Methods of all objects and of numbers

They take the usual steps only: those that every lawful contract allows.
-/

namespace LateBinding

open Eval Contract

variable {C : Contract} [C.Lawful] {send : Sender} {self : Value} {args : Args}

namespace ObjectMethod

theorem meets_methodName {v : Value} (hends : C.Ends [v]) :
    (methodName v).Meets C fun _ => True := by
  unfold methodName
  split
  · exact .pure trivial
  · exact meets_intern _
  · refine meets_heap.bind ?_
    rintro _ ⟨m, hm, rfl⟩
    exact (meets_inspect hends hm List.mem_cons_self).bind fun _ _ => meets_fail _

def isLooking : ObjectMethod → Bool
  | inspect | toS | notEqual | respondTo => true
  | equal | isNil => false

theorem meets_run (hs : C.Sends send) (m : ObjectMethod) (hself : C.value self)
    (hargs : ∀ v ∈ args.items, C.value v)
    (hends : m.isLooking = true → C.Ends (self :: args.items)) :
    (m.run send self args).Meets C C.value := by
  have hbool : ∀ b, C.value (.bool b) := fun b => Lawful.made trivial
  unfold run
  refine (meets_check args m.arity).bind fun _ hsize => ?_
  cases m with
  | inspect =>
    refine meets_heap.bind ?_
    rintro _ ⟨m, hm, rfl⟩
    exact (meets_inspect (hends rfl) hm List.mem_cons_self).bind fun _ _ => meets_newString _
  | toS =>
    refine meets_heap.bind ?_
    rintro _ ⟨m, hm, rfl⟩
    exact (meets_display (hends rfl) hm List.mem_cons_self).bind fun _ _ => meets_newString _
  | equal => exact meets_heap.bind fun _ _ => (meets_arg hsize).bind fun _ _ => .pure (hbool _)
  | notEqual =>
    exact (hs.convert hself "==" (by decide) hargs fun _ => hends rfl).bind fun _ _ =>
      .pure (hbool _)
  | isNil => exact .pure (hbool _)
  | respondTo =>
    refine (meets_arg hsize).bind fun v hv => ?_
    have hname : C.Ends [v] := (hends rfl).subset (by simp [hv])
    refine (meets_methodName hname).bind fun name _ => ?_
    exact (meets_respondsTo self name).bind fun _ _ => .pure (hbool _)

end ObjectMethod

namespace IntegerMethod

theorem meets_receiver (v : Value) : (receiver v).Meets C (v = .integer ·) := by
  unfold receiver
  split
  · exact .pure rfl
  · exact meets_wrongArgument _ _

theorem meets_bounded (n : ℤ) : (bounded n).Meets C C.value := by
  unfold bounded
  split
  · exact .pure (Lawful.made trivial)
  · exact meets_fail _

theorem meets_run (m : IntegerMethod) (hself : C.value self) :
    (m.run self args).Meets C C.value := by
  unfold run
  refine (meets_check args m.arity).bind fun _ hsize => (meets_receiver self).bind fun n _ => ?_
  cases m with
  | toS => exact meets_newString _
  | toI => exact .pure hself
  | succ => exact meets_bounded _
  | plus | minus =>
    refine (meets_arg hsize).bind fun v _ => ?_
    split
    · exact meets_bounded _
    · exact .pure (Lawful.made trivial)
    · exact meets_fail _
  | equal =>
    refine (meets_arg hsize).bind fun v _ => ?_
    split <;> exact .pure (Lawful.made trivial)
  | compare =>
    refine (meets_arg hsize).bind fun v _ => ?_
    split
    · exact .pure (value_ordering _)
    · refine .pure ?_
      cases (Double.ofInt n).order? _ with
      | none => exact Lawful.made trivial
      | some o => exact value_ordering o
    · exact .pure (Lawful.made trivial)

end IntegerMethod

namespace FloatMethod

theorem meets_receiver (v : Value) : (receiver v).Meets C (v = .float ·) := by
  unfold receiver
  split
  · exact .pure rfl
  · exact meets_wrongArgument _ _

theorem meets_wholeNumber (d : Double) : (wholeNumber d).Meets C C.value := by
  unfold wholeNumber
  split
  · split
    · exact .pure (Lawful.made trivial)
    · exact meets_fail _
  · exact meets_fail _

theorem meets_run (m : FloatMethod) : (m.run self args).Meets C C.value := by
  unfold run
  refine (meets_check args m.arity).bind fun _ hsize => (meets_receiver self).bind fun d _ => ?_
  cases m with
  | toS => exact meets_newString _
  | toI => exact meets_wholeNumber d
  | equal =>
    refine (meets_arg hsize).bind fun v _ => ?_
    split <;> exact .pure (Lawful.made trivial)

end FloatMethod

end LateBinding
