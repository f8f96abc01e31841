import LateBinding.Proofs.Method.Contract

/-! # What a computation leaves as it is

A frame is a relation from earlier to later machines that every step of a method respects, whatever
it writes and wherever faults arise. A computation keeps the frame when it meets the contract that
asks for nothing else.
-/

namespace LateBinding

class Frame (R : Machine → Machine → Prop) : Prop where
  refl (m : Machine) : R m m
  trans {l m n : Machine} : R l m → R m n → R l n
  symbols (m : Machine) (name : String) : R m { m with symbols := (m.symbols.intern name).2 }
  heap (m : Machine) (h : Heap) : R m { m with heap := h }
  register (m : Machine) (v : Value) : R m { m with lastMatch := v }
  users (m : Machine) (i : ℕ) : R m { m with userCursor := i }
  groups (m : Machine) (i : ℕ) : R m { m with groupCursor := i }

def Contract.frame (R : Machine → Machine → Prop) : Contract :=
  ⟨fun _ => True, fun _ => True, R, fun _ => True⟩

instance {R : Machine → Machine → Prop} [Frame R] : (Contract.frame R).Lawful where
  refl := Frame.refl (R := R)
  trans := Frame.trans (R := R)
  keep _ _ := trivial
  contents _ := ⟨fun _ _ _ _ => trivial, fun _ _ _ _ => ⟨trivial, trivial⟩, fun _ _ _ _ => trivial⟩
  made _ := trivial
  sound := .inl trivial
  symbols name _ := Frame.symbols (R := R) _ name
  heap _ _ _ _ := Frame.heap (R := R) _ _
  users i _ := Frame.users (R := R) _ i
  groups i _ := Frame.groups (R := R) _ i

namespace Eval

variable {R : Machine → Machine → Prop} {α β : Type} {x : Eval α} {f : α → Eval β}

def after (x : Eval α) (m : Machine) : Machine :=
  match x m with
  | .ok _ m' | .error _ m' => m'

theorem after_of_ok {m m' : Machine} {a : α} (h : x m = .ok a m') : x.after m = m' := by
  unfold after
  rw [h]

theorem after_of_error {m m' : Machine} {e : Fault} (h : x m = .error e m') : x.after m = m' := by
  unfold after
  rw [h]

def Keeps (R : Machine → Machine → Prop) (x : Eval α) : Prop := ∀ m, R m (x.after m)

theorem keeps_iff_meets : x.Keeps R ↔ x.Meets (.frame R) fun _ => True := by
  have hallows : ∀ m, R m (x.after m) ↔ (Contract.frame R).Allows (fun _ => True) m (x m) := by
    intro m
    unfold after Contract.Allows
    rcases x m with ⟨_, _⟩ | ⟨_ | _ | _ | _, _⟩ <;> simp [Contract.frame]
  exact ⟨fun hx => ⟨fun m _ => (hallows m).mp (hx m)⟩,
    fun hx m => (hallows m).mpr (hx.allows m trivial)⟩

theorem Meets.step_after {C : Contract} {Q : α → Prop} {m : Machine} (hx : x.Meets C Q)
    (hm : C.machine m) : C.step m (x.after m) := by
  have hxm := hx.allows m hm
  unfold Contract.Allows at hxm
  unfold after
  split at hxm
  · next h => rw [h]; exact hxm.1
  · next h => rw [h]; exact hxm
  · next h => rw [h]; exact hxm.1

variable [Frame R]

theorem Keeps.pure (a : α) : Keeps R (Pure.pure a : Eval α) := keeps_iff_meets.mpr (.pure trivial)

theorem Keeps.bind (hx : x.Keeps R) (hf : ∀ a, (f a).Keeps R) : (x >>= f).Keeps R :=
  keeps_iff_meets.mpr ((keeps_iff_meets.mp hx).bind fun a _ => keeps_iff_meets.mp (hf a))

theorem keeps_intern (name : String) : (intern name).Keeps R :=
  keeps_iff_meets.mpr (meets_intern name)

theorem keeps_check (args : Args) (expected : Arity) : (check args expected).Keeps R :=
  keeps_iff_meets.mpr ((meets_check args expected).imp fun _ _ => trivial)

theorem keeps_classOf (v : Value) : (classOf v).Keeps R := keeps_iff_meets.mpr (meets_classOf v)

end Eval

def Sender.Keeps (R : Machine → Machine → Prop) (send : Sender) : Prop :=
  ∀ receiver name args, (send receiver name args).Keeps R

theorem Contract.sendsAll_frame_iff {R : Machine → Machine → Prop} {send : Sender} :
    (Contract.frame R).SendsAll send ↔ send.Keeps R :=
  ⟨fun hs _ name _ => Eval.keeps_iff_meets.mpr (hs trivial name fun _ _ => trivial),
    fun hs _ _ name _ _ => Eval.keeps_iff_meets.mp (hs _ name _)⟩

/-- Native code keeps a frame that all it sends keeps. -/
structure Host.Keeps (R : Machine → Machine → Prop) (host : Host) : Prop where
  method : ∀ name {send}, Sender.Keeps R send → ∀ v args, (host.method name send v args).Keeps R
  block : ∀ code {send}, Sender.Keeps R send → ∀ items, (host.block code send items).Keeps R

variable {R : Machine → Machine → Prop} {host : Host}

theorem Host.Keeps.meets (hh : host.Keeps R) : host.Meets (.frame R) where
  method name _ _ hs _ _ _ _ :=
    Eval.keeps_iff_meets.mp (hh.method name (Contract.sendsAll_frame_iff.mp hs) _ _)
  block _ _ _ hs _ _ := Eval.keeps_iff_meets.mp (hh.block _ (Contract.sendsAll_frame_iff.mp hs) _)

theorem keeps_sendWithin [Frame R] (hh : host.Keeps R) (n : ℕ) :
    Sender.Keeps R (Eval.sendWithin host n) := by
  have hset : (Contract.frame R).MaySet := fun m v _ _ => Frame.register (R := R) m v
  have hname : ∀ s, (Contract.frame R).MayName s := fun _ m _ => Frame.heap (R := R) m _
  have hwrite : (Contract.frame R).MayWrite := fun m h _ _ _ => Frame.heap (R := R) m h
  exact Contract.sendsAll_frame_iff.mp
    (Eval.sendsAll_sendWithin (fun _ => trivial) hset hname hwrite hh.meets n)

def Host.idle : Host where
  system := .ofLists [] [] []
  method _ _ _ _ := return .nil
  block _ _ _ := return .nil
  stack := 1

theorem Host.keeps_idle [Frame R] : Host.idle.Keeps R where
  method _ _ _ _ _ := .pure _
  block _ _ _ _ := .pure _

end LateBinding
