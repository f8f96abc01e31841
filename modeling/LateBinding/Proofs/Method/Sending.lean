import LateBinding.Proofs.Machine.Effect

/-! # Sends from inside built-in methods

On its own a built-in method sends the messages for conversions and for equality, and those that
symbols are derived with. Two ways of sending that come to the same for these come to the same for
every method but the call of a proc, with the built-in methods only.
-/

namespace LateBinding

open Eval

variable {α β : Type} {x y : Eval α} {f g : α → Eval β} {P : α → Prop} {host host' : Host}
  {send send' : Sender} {self : Value} {args : Args}

namespace Eval

def Same (x y : Eval α) : Prop := ∀ m, m.Defines Builtin.definitions → x m = y m

theorem Same.refl (x : Eval α) : Same x x := fun _ _ => rfl

theorem Same.bind_left (h : Same x y) (f : α → Eval β) : Same (x >>= f) (y >>= f) :=
  fun m hd => bind_congr_at (h m hd)

/-- What comes first must keep the methods, for what follows to be the same. -/
theorem Same.bind (h : Same x y) (hmeets : x.Meets (.steady True) P)
    (hf : ∀ a, P a → Same (f a) (g a)) : Same (x >>= f) (y >>= g) := by
  intro m hd
  rw [bind_congr_at (h m hd).symm]
  have hx := hmeets.allows m hd
  cases hxm : x m with
  | ok a m' =>
    rw [hxm] at hx
    rw [bind_of_ok hxm, bind_of_ok hxm]
    exact hf a hx.2 m' (hd.extends hx.1.keeps)
  | error e m' => rw [bind_of_error hxm, bind_of_error hxm]

theorem Same.bind_right (hmeets : x.Meets (.steady True) P) (hf : ∀ a, P a → Same (f a) (g a)) :
    Same (x >>= f) (x >>= g) :=
  Same.bind (.refl x) hmeets hf

end Eval

theorem Contract.mayName_steady {may : Prop} (s : Symbol) : (steady may).MayName s :=
  fun m _ => ⟨Frame.heap m _, m.heap.grows_nameString s, .inr rfl⟩

/-- Two ways of sending come to the same for the messages from inside methods, and these keep the
methods. -/
structure Sender.Same (send send' : Sender) : Prop where
  convert : ∀ v, ∀ name ∈ Builtin.conversions, ∀ args,
    Eval.Same (send.byName v name args) (send'.byName v name args)
  derive : ∀ s, ∀ name ∈ Builtin.derivations, ∀ args,
    Eval.Same (send.byName (.string s) name args) (send'.byName (.string s) name args)
  keeps : (Contract.steady True).Sends send

section

variable (h : send.Same send')

include h

namespace Eval

theorem same_toStr (v : Value) : Same (toStr send v) (toStr send' v) := by
  unfold toStr
  split
  · exact .refl _
  · refine Same.bind_right (meets_respondsToName _ _) fun answers _ => ?_
    cases answers with
    | false => exact .refl _
    | true => exact (h.convert _ "to_str" (by decide) _).bind_left _

theorem same_toInt (v : Value) : Same (toInt send v) (toInt send' v) := by
  cases v with
  | integer _ | nil => exact .refl _
  | _ =>
    refine Same.bind_right (meets_respondsToName _ _) fun answers _ => ?_
    cases answers with
    | false => exact .refl _
    | true => exact (h.convert _ "to_int" (by decide) _).bind_left _

theorem same_asInteger (f : Int64 → Eval α) (args : Args) (i : ℕ) :
    Same (do f (← toInt send (← arg args i))) (do f (← toInt send' (← arg args i))) :=
  Same.bind_right (meets_orPanic (.inl trivial)) fun v _ => (same_toInt h v).bind_left f

end Eval

theorem ObjectMethod.same_run (m : ObjectMethod) :
    Same (m.run send self args) (m.run send' self args) := by
  cases m with
  | notEqual =>
    refine Same.bind_right (meets_check args _) fun _ _ => ?_
    exact (h.convert self "==" (by decide) args).bind_left _
  | _ => exact .refl _

namespace StringMethod

theorem same_selectGroup (m : Match) (selector : Option Value) :
    Same (selectGroup send m selector) (selectGroup send' m selector) := by
  unfold selectGroup
  split
  · exact .refl _
  · exact .refl _
  · exact .refl _
  · exact (same_toInt h _).bind_left _

theorem same_part (text : String) (index : Value) (length : Option Value) :
    Same (part send text index length) (part send' text index length) := by
  unfold part
  refine (same_toInt h index).bind (meets_toInt h.keeps trivial) fun i _ => ?_
  refine Same.bind_right (meets_fromEnd (.inl trivial) i) fun start _ => ?_
  cases length with
  | none => exact .refl _
  | some length => exact (same_toInt h length).bind_left _

theorem same_refer (text : String) (index : Value) (length : Option Value) :
    Same (refer send text index length) (refer send' text index length) := by
  unfold refer
  split
  · next r =>
    refine Same.bind_right (meets_lookFor (Contract.maySet_steady trivial) r text) fun found _ => ?_
    cases found with
    | none => exact .refl _
    | some m => exact (same_selectGroup h m length).bind_left _
  · exact .refl _
  · exact same_part h text index length

theorem same_anyAtFront (text : String) (patterns : List Value) :
    Same (anyAtFront send text patterns) (anyAtFront send' text patterns) := by
  induction patterns with
  | nil => exact .refl _
  | cons v rest ih =>
    cases v with
    | regexp r =>
      unfold anyAtFront
      refine Same.bind_right (meets_lookAtFront (Contract.maySet_steady trivial) r text)
        fun found _ => ?_
      cases found with
      | true => exact .refl _
      | false => exact ih
    | _ =>
      unfold anyAtFront
      refine (same_toStr h _).bind (meets_toStr h.keeps trivial) fun start _ => ?_
      split
      · exact .refl _
      · exact ih

theorem same_anyAtEnd (text : String) (patterns : List Value) :
    Same (anyAtEnd send text patterns) (anyAtEnd send' text patterns) := by
  induction patterns with
  | nil => exact .refl _
  | cons v rest ih =>
    unfold anyAtEnd
    refine (same_toStr h v).bind (meets_toStr h.keeps trivial) fun tail _ => ?_
    split
    · exact .refl _
    · exact ih

theorem same_run (m : StringMethod) : Same (m.run send self args) (m.run send' self args) := by
  cases m with
  | ref =>
    refine Same.bind_right (meets_check args _) fun _ _ => ?_
    refine Same.bind_right (meets_receiver self) fun s _ => ?_
    refine Same.bind_right (meets_orPanic (.inl trivial)) fun index _ => ?_
    exact same_refer h s.text index _
  | startsWith =>
    refine Same.bind_right (meets_receiver self) fun s _ => ?_
    exact (same_anyAtFront h s.text args.items).bind_left _
  | endsWith =>
    refine Same.bind_right (meets_receiver self) fun s _ => ?_
    exact (same_anyAtEnd h s.text args.items).bind_left _
  | plus =>
    refine Same.bind_right (meets_check args _) fun _ _ => ?_
    refine Same.bind_right (meets_receiver self) fun s _ => ?_
    refine Same.bind_right (meets_orPanic (.inl trivial)) fun v _ => ?_
    exact (same_toStr h v).bind_left _
  | _ => exact .refl _

end StringMethod

namespace SymbolMethod

theorem same_transform (s : Symbol) {message : String} (hm : message ∈ Builtin.derivations)
    (args : Args) : Same (transform send s message args) (transform send' s message args) := by
  refine Same.bind_right (meets_freshString s.name) ?_
  rintro _ ⟨t, rfl⟩
  exact (h.derive t message hm args).bind_left _

theorem same_run (m : SymbolMethod) : Same (m.run send self args) (m.run send' self args) := by
  cases m with
  | startsWith =>
    refine Same.bind_right (meets_receiver self) fun s _ => Same.bind_left ?_ _
    refine Same.bind_right (meets_nameString (Contract.mayName_steady s)) fun t _ => ?_
    exact StringMethod.same_anyAtFront h t.text args.items
  | endsWith =>
    refine Same.bind_right (meets_receiver self) fun s _ => Same.bind_left ?_ _
    refine Same.bind_right (meets_nameString (Contract.mayName_steady s)) fun t _ => ?_
    exact StringMethod.same_anyAtEnd h t.text args.items
  | ref =>
    refine Same.bind_right (meets_check args _) fun _ _ => ?_
    refine Same.bind_right (meets_receiver self) fun s _ => ?_
    refine Same.bind_right (meets_orPanic (.inl trivial)) fun index _ => ?_
    exact StringMethod.same_refer h s.name index _
  | succ | upcase | downcase | swapcase | capitalize =>
    refine Same.bind_right (meets_receiver self) fun s _ => ?_
    exact (same_transform h s (by decide) args).bind_left _
  | _ => exact .refl _

end SymbolMethod

theorem ArrayMethod.same_run (m : ArrayMethod) :
    Same (m.run send self args) (m.run send' self args) := by
  cases m with
  | ref =>
    refine Same.bind_right (meets_check args _) fun _ _ => ?_
    refine Same.bind_right (meets_receiver self) fun r _ => ?_
    exact same_asInteger h _ args 0
  | _ => exact .refl _

theorem MatchMethod.same_select (m : Match) (selector : Value) :
    Same (select send m selector) (select send' m selector) := by
  unfold select
  split
  · exact .refl _
  · exact .refl _
  · exact (same_toInt h _).bind_left _

theorem MatchMethod.same_run (m : MatchMethod) :
    Same (m.run send self args) (m.run send' self args) := by
  refine Same.bind_right (meets_check args _) fun _ _ => ?_
  refine Same.bind_right (meets_receiver self) fun found _ => ?_
  cases m with
  | ref =>
    refine Same.bind_right (meets_orPanic (.inl trivial)) fun selector _ => ?_
    exact (same_select h found selector).bind_left _
  | offset => exact same_asInteger h _ args 0
  | _ => exact .refl _

namespace SystemMethod

theorem same_idOf (current : ℕ) (v : Option Value) :
    Same (idOf send current v) (idOf send' current v) := by
  cases v with
  | none => exact .refl _
  | some v => exact (same_toInt h v).bind_left _

theorem same_run (system : OperatingSystem) (m : SystemMethod) :
    Same (m.run system send args) (m.run system send' args) := by
  refine Same.bind_right (meets_check args _) fun _ _ => ?_
  cases m with
  | userWithId => exact (same_idOf h system.currentUser _).bind_left _
  | groupWithId => exact (same_idOf h system.currentGroup _).bind_left _
  | limit => exact same_asInteger h _ args 0
  | _ => exact .refl _

end SystemMethod

/-- A method other than the call of a proc cannot tell the two ways apart. -/
theorem Builtin.same_run {b : Builtin} (hb : b = .proc .call → ∀ p, self ≠ .proc p) :
    Same (b.run host send self args) (b.run host send' self args) := by
  cases b with
  | object m => exact m.same_run h
  | string m => exact m.same_run h
  | symbol m => exact m.same_run h
  | array m => exact m.same_run h
  | matched m => exact m.same_run h
  | system m => exact m.same_run h host.system
  | proc m =>
    cases m with
    | call =>
      cases self with
      | proc p => exact absurd rfl (hb rfl p)
      | _ => exact .refl _
    | _ => exact .refl _
  | _ => exact .refl _

end

/-- Nor does it use anything of the host but the operating system. -/
theorem Builtin.run_eq_of_system (h : host.system = host'.system) {b : Builtin}
    (hb : b = .proc .call → ∀ p, self ≠ .proc p) :
    b.run host send self args = b.run host' send self args := by
  cases b with
  | proc m =>
    cases m with
    | call =>
      cases self with
      | proc p => exact absurd rfl (hb rfl p)
      | _ => rfl
    | _ => rfl
  | system m => exact congrArg (fun system => SystemMethod.run system send m args) h
  | _ => rfl

end LateBinding
