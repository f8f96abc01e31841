import LateBinding.Method.Array
import LateBinding.Method.Hash
import LateBinding.Method.Proc
import LateBinding.Proofs.Machine.Contract

/-! # Methods of arrays, hashes and procs

Adding to an array and storing in a hash write in contents that were there before. A call binds its
arguments to as many parameters as the block asks for.
-/

namespace LateBinding

open Eval Contract

variable {C : Contract} [C.Lawful] {send : Sender} {host : Host} {self : Value} {args : Args}

namespace ArrayMethod

theorem meets_receiver (v : Value) : (receiver v).Meets C (v = .array ·) := by
  unfold receiver
  split
  · exact .pure rfl
  · exact meets_wrongArgument _ _

theorem meets_place {size : ℕ} (hsize : C.faults .panic ∨ Sized size) (i : Int64) :
    (place i size).Meets C fun found => ∀ n ∈ found, n < size := by
  have hin : ∀ n : ℤ, ∀ k ∈ (if 0 ≤ n ∧ n < size then some n.toNat else none), k < size := by
    intro n k hk
    split at hk
    · obtain rfl := Option.some.inj hk
      omega
    · cases hk
  unfold place
  split
  · next hi => exact (meets_sum_of_sized hi hsize).bind fun n _ => .pure (hin n)
  · exact Meets.bind (P := fun _ => True) (.pure trivial) fun n _ => .pure (hin n)

theorem meets_itemAt {items : List Value} (hv : ∀ v ∈ items, C.value v) {i : Option ℕ}
    (hi : ∀ n ∈ i, n < items.length) : (itemAt items i).Meets C C.value := by
  unfold itemAt
  split
  · next i =>
    have hsome : items[i]?.isSome = true := by rw [List.getElem?_eq_getElem (hi i rfl)]; rfl
    exact (meets_orPanic (.inr hsome)).imp fun v h => hv v (List.mem_of_getElem? h)
  · exact .pure (Lawful.made trivial)

theorem value_getD {found : Option Value} (hv : ∀ v ∈ found, C.value v) :
    C.value (found.getD .nil) := by
  cases found with
  | some v => exact hv v rfl
  | none => exact Lawful.made trivial

theorem meets_run (hs : C.Sends send) (m : ArrayMethod) (hself : C.value self)
    (hargs : ∀ v ∈ args.items, C.value v) (hends : m = .equal → C.Ends (self :: args.items))
    (hwrite : m = .push → ∀ r, self = .array r → C.MayWrite)
    (hsized : m = .ref → C.faults .panic ∨ ∀ m', C.machine m' → ∀ r, self = .array r →
      Sized (m'.heap.array r).length) :
    (m.run send self args).Meets C C.value := by
  unfold run
  extract_lets body
  have hbody : (∀ a, m.arity? = some a → a.least ≤ args.size) → ∀ u, (body u).Meets C C.value := by
    intro hsize u
    refine (meets_receiver self).bind fun array harray => ?_
    cases m with
    | toAry => exact .pure hself
    | size => exact meets_heap.bind fun _ _ => .pure (Lawful.made trivial)
    | first =>
      refine meets_heap.bind ?_
      rintro _ ⟨m, hm, rfl⟩
      exact .pure (value_getD fun v hv => (Lawful.contents hm).array (List.mem_of_head? hv))
    | last =>
      refine meets_heap.bind ?_
      rintro _ ⟨m, hm, rfl⟩
      exact .pure (value_getD fun v hv => (Lawful.contents hm).array (List.mem_of_getLast? hv))
    | ref =>
      refine (meets_arg (hsize _ rfl)).bind fun v hv =>
        (meets_toInt hs (hargs v hv)).bind fun i _ => ?_
      refine meets_heap.bind ?_
      rintro _ ⟨m, hm, rfl⟩
      refine (meets_place ((hsized rfl).imp_right fun h => h m hm array harray) i).bind
        fun place hplace => ?_
      exact meets_itemAt (fun v hv => (Lawful.contents hm).array hv) hplace
    | dup =>
      refine meets_heap.bind ?_
      rintro _ ⟨m, hm, rfl⟩
      exact meets_newArray fun v hv => (Lawful.contents hm).array hv
    | push =>
      refine (meets_setHeap (hwrite rfl array harray) (fun h hh => hh.setArray fun v hv => ?_)
        fun _ => rfl).bind fun _ _ => .pure hself
      rcases List.mem_append.mp hv with hv | hv
      · exact hh.array hv
      · exact hargs v hv
    | equal =>
      refine meets_heap.bind ?_
      rintro _ ⟨m, hm, rfl⟩
      refine (meets_arg (hsize _ rfl)).bind fun v hv => ?_
      refine (meets_eql (hends rfl) hm List.mem_cons_self (List.mem_cons_of_mem _ hv)).bind
        fun _ _ => ?_
      exact .pure (Lawful.made trivial)
  split
  · next a ha =>
    refine (meets_check args a).bind fun _ hsize => hbody (fun b hb => ?_) ()
    rw [ha] at hb
    exact Option.some.inj hb ▸ hsize
  · next hnone => exact hbody (fun a ha => absurd ha (hnone a)) ()

end ArrayMethod

namespace HashMethod

theorem meets_receiver (v : Value) : (receiver v).Meets C (v = .hash ·) := by
  unfold receiver
  split
  · exact .pure rfl
  · exact meets_wrongArgument _ _

def isLooking : HashMethod → Bool
  | ref | hasKey | equal => true
  | _ => false

theorem meets_run (m : HashMethod) (hargs : ∀ v ∈ args.items, C.value v)
    (hends : m.isLooking = true → C.Ends (self :: args.items))
    (hwrite : m = .set → ∀ r, self = .hash r → C.MayWrite ∧ C.faults .endless) :
    (m.run self args).Meets C C.value := by
  unfold run
  refine (meets_check args m.arity).bind fun _ hsize =>
    (meets_receiver self).bind fun hash hself => ?_
  have hmem : Value.hash hash ∈ self :: args.items := hself ▸ List.mem_cons_self
  cases m with
  | ref =>
    refine meets_heap.bind ?_
    rintro _ ⟨m, hm, rfl⟩
    refine (meets_arg hsize).bind fun key hkey => ?_
    refine (meets_hashGet (hends rfl) hm hmem (List.mem_cons_of_mem _ hkey)).bind
      fun found hfound => ?_
    exact .pure (ArrayMethod.value_getD hfound)
  | hasKey =>
    refine meets_heap.bind ?_
    rintro _ ⟨m, hm, rfl⟩
    refine (meets_arg hsize).bind fun key hkey => ?_
    refine (meets_hashGet (hends rfl) hm hmem (List.mem_cons_of_mem _ hkey)).bind fun found _ => ?_
    exact .pure (Lawful.made trivial)
  | equal =>
    refine meets_heap.bind ?_
    rintro _ ⟨m, hm, rfl⟩
    refine (meets_arg hsize).bind fun v hv => ?_
    refine (meets_eql (hends rfl) hm List.mem_cons_self (List.mem_cons_of_mem _ hv)).bind
      fun _ _ => ?_
    exact .pure (Lawful.made trivial)
  | set =>
    have htwo : 2 ≤ args.size := hsize
    obtain ⟨hmay, hendless⟩ := hwrite rfl hash hself
    refine (meets_arg (i := 0) (by omega)).bind fun key hkey => ?_
    refine (meets_arg (i := 1) (by omega)).bind fun value hvalue => meets_heap.bind ?_
    rintro _ ⟨m, hm, rfl⟩
    refine (meets_orEndless (.inl hendless)).bind fun entries hstored => ?_
    have hentries := (Lawful.contents hm).stored? (hargs key hkey) (hargs value hvalue) hstored
    refine (meets_setHeap hmay (fun h hh => hh.setHash hentries) fun _ => rfl).bind fun _ _ => ?_
    exact .pure (hargs value hvalue)
  | size => exact meets_heap.bind fun _ _ => .pure (Lawful.made trivial)
  | keys =>
    refine meets_heap.bind ?_
    rintro _ ⟨m, hm, rfl⟩
    refine meets_newArray fun v hv => ?_
    obtain ⟨e, he, rfl⟩ := List.mem_map.mp hv
    exact ((Lawful.contents hm).hash he).1
  | values =>
    refine meets_heap.bind ?_
    rintro _ ⟨m, hm, rfl⟩
    refine meets_newArray fun v hv => ?_
    obtain ⟨e, he, rfl⟩ := List.mem_map.mp hv
    exact ((Lawful.contents hm).hash he).2

end HashMethod

namespace ProcMethod

theorem meets_receiver (v : Value) : (receiver v).Meets C (v = .proc ·) := by
  unfold receiver
  split
  · exact .pure rfl
  · exact meets_wrongArgument _ _

theorem inWindow_of_accepts {b : Block} {n : ℕ} (h : b.window.accepts n = true) :
    Args.InWindow b.min b.max n := by
  unfold Block.window at h
  unfold Args.InWindow
  split at h
  · next k hk =>
    rw [hk]
    split at h <;> simp [Arity.accepts] at h ⊢ <;> omega
  · next hk =>
    rw [hk]
    simpa [Arity.accepts] using h

theorem meets_parameters (hs : C.Sends send) {isLambda : Bool} {b : Block}
    (hroom : C.faults .panic ∨ isLambda = true ∨ ¬ Args.Exceeds b.min b.max args.size)
    (hargs : ∀ v ∈ args.items, C.value v) :
    (parameters send isLambda b args).Meets C fun items =>
      (∀ v ∈ items, C.value v) ∧ Args.InWindow b.min b.max items.length := by
  unfold parameters
  split
  · exact (meets_check_accepts args _).bind fun _ haccepts =>
      .pure ⟨hargs, inWindow_of_accepts haccepts⟩
  · next hloose =>
    exact meets_bindBlock hs hargs (hroom.imp_right fun h => h.resolve_left hloose) _

theorem arity?_isSome {p : Proc} {blocks : Block → Prop} (hp : (Value.proc p).Intact blocks) :
    p.arity?.isSome = true := by
  obtain ⟨id, body, isLambda⟩ := p
  cases body with
  | send _ => rfl
  | block b =>
    obtain ⟨hbound, -⟩ := hp
    unfold Proc.arity? Block.arity?
    dsimp only
    split
    · rfl
    · split
      · next hmin =>
        have hint := Int64.toInt_ofNat_of_lt hbound
        rw [hmin] at hint
        have hmin : Int64.minValue.toInt < 0 := by decide
        omega
      · rfl

theorem meets_run (m : ProcMethod) (hself : C.value self)
    (hcall : m = .call → ∀ p, self = .proc p → (callProc host send p args).Meets C C.value) :
    (m.run host send self args).Meets C C.value := by
  unfold run
  extract_lets body
  have hbody : ∀ u, (body u).Meets C C.value := by
    intro u
    refine (meets_receiver self).bind ?_
    rintro p rfl
    cases m with
    | call => exact hcall rfl p rfl
    | arity =>
      refine (meets_orPanic (Lawful.sound.imp_right fun h => arity?_isSome (h _ hself))).bind ?_
      exact fun n _ => .pure (Lawful.made trivial)
    | isLambda => exact .pure (Lawful.made trivial)
    | toProc => exact .pure hself
  split
  · exact (meets_check args _).bind fun _ _ => hbody ()
  · exact hbody ()

end ProcMethod

end LateBinding
