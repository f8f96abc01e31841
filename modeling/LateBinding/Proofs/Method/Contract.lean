import LateBinding.Proofs.Method.Container
import LateBinding.Proofs.Method.Scalar
import LateBinding.Proofs.Method.System
import LateBinding.Proofs.Method.Text
import LateBinding.Send

/-! # Built-in methods meet contracts

Every built-in method is made of steps that meet a lawful contract, as long as the messages that it
sends meet it. Only adding to an array and storing in a hash write in contents that were there
before, only looking for a regexp sets the register of the last match, only four methods reckon with
sizes, and only some go into values.
-/

namespace LateBinding

open Eval Contract

variable {C : Contract} [C.Lawful] {send : Sender} {host : Host} {self : Value} {args : Args}

def Value.isText : Value → Bool
  | .string _ | .symbol _ => true
  | _ => false

namespace Builtin

def isSearch : Builtin → Bool
  | .string m => m.isSearch
  | .symbol m => m.isSearch
  | _ => false

def isNaming : Builtin → Bool
  | .symbol m => m.isNaming
  | _ => false

def isMeasuring : Builtin → Bool
  | .string .ref | .symbol .ref | .array .ref | .matched .ref => true
  | _ => false

def isLooking : Builtin → Bool
  | .object m => m.isLooking
  | .string m => m.isLooking
  | .symbol m => m.isLooking
  | .array .equal => true
  | .hash m => m.isLooking
  | _ => false

/-- What a method may do beyond the usual steps, and what it relies on. -/
structure Permits (C : Contract) (host : Host) (send : Sender) (b : Builtin) (receiver : Value)
    (args : Args) : Prop where
  search : b.isSearch = true → receiver.isText = true → ∀ r, .regexp r ∈ args.items → C.MaySet
  name : b.isNaming = true → ∀ s, receiver = .symbol s → C.MayName s
  push : b = .array .push → ∀ r, receiver = .array r → C.MayWrite
  store : b = .hash .set → ∀ r, receiver = .hash r → C.MayWrite ∧ C.faults .endless
  call : b = .proc .call → ∀ p, receiver = .proc p → (callProc host send p args).Meets C C.value
  fits : b.isMeasuring = true →
    C.faults .panic ∨ ∀ m, C.machine m → ∀ v ∈ receiver :: args.items, m.heap.Fits v
  ends : b.isLooking = true → C.Ends (receiver :: args.items)

theorem Permits.meets_run (hs : C.Sends send) {b : Builtin} {receiver : Value}
    (hp : b.Permits C host send receiver args) (hreceiver : C.value receiver)
    (hargs : ∀ v ∈ args.items, C.value v) : (b.run host send receiver args).Meets C C.value := by
  refine ⟨fun m hm => ?_⟩
  -- only an array is measured after the start, when its method has asked for an index
  have hfits : b.isMeasuring = true → C.faults .panic ∨
      ∀ v ∈ receiver :: args.items, m.heap.Fits v :=
    fun hb => (hp.fits hb).imp_right fun h => h m hm
  have hends : b.isLooking = true → C.Ends args.items := fun hb =>
    (hp.ends hb).subset fun _ => List.mem_cons_of_mem _
  suffices hmeets : (b.run host send receiver args).Meets C C.value from hmeets.allows m hm
  cases b with
  | object k => exact k.meets_run hs hreceiver hargs hp.ends
  | integer k => exact k.meets_run hreceiver
  | float k => exact k.meets_run
  | string k =>
    refine k.meets_run hs hargs hends (fun hk s hself => ?_) fun hk => ?_
    · exact hp.search hk (hself ▸ rfl)
    · subst hk
      refine (hfits rfl).imp_right fun h => ⟨fun s hself => ?_, fun r hr => ?_⟩
      · exact h (.string s) (by simp [hself])
      · exact h (.regexp r) (by simp [hr])
  | symbol k =>
    refine k.meets_run hs hargs hends (fun hk => hp.name hk) (fun hk s hself => ?_) fun hk => ?_
    · exact hp.search hk (hself ▸ rfl)
    · subst hk
      refine (hfits rfl).imp_right fun h => ⟨fun s hself => ?_, fun r hr => ?_⟩
      · exact h (.symbol s) (by simp [hself])
      · exact h (.regexp r) (by simp [hr])
  | array k =>
    refine k.meets_run hs hreceiver hargs (fun hk => hp.ends (hk ▸ rfl))
      (fun hk => hp.push (congrArg _ hk)) ?_
    rintro rfl
    exact (hp.fits rfl).imp_right fun h m' hm' r hself => h m' hm' (.array r) (by simp [hself])
  | hash k => exact k.meets_run hargs hp.ends fun hk => hp.store (congrArg _ hk)
  | proc k => exact k.meets_run hreceiver fun hk => hp.call (congrArg _ hk)
  | matched k =>
    refine k.meets_run hs hreceiver hargs fun hk => ?_
    subst hk
    exact (hfits rfl).imp_right fun h found hself => h (.matched found) (by simp [hself])
  | system k => exact k.meets_run hs host.system hargs

end Builtin

structure Host.Meets (C : Contract) (host : Host) : Prop where
  method : ∀ name, C.Has (.native name) → ∀ {send : Sender}, C.SendsAll send →
    ∀ {v : Value} {args : Args},
    C.value v → (∀ w ∈ args.items, C.value w) → (host.method name send v args).Meets C C.value
  block : ∀ {p : Proc} {b : Block}, C.value (.proc p) → p.body = .block b → ∀ {send : Sender},
    C.SendsAll send → ∀ {items : List Value}, (∀ w ∈ items, C.value w) →
      (host.block b.code send items).Meets C C.value

namespace Eval

variable {receiver : Value}

theorem meets_accessField (o : Object) (name : Symbol) (hargs : ∀ v ∈ args.items, C.value v)
    (hwrite : (writtenField? name.name).isSome = true → C.MayWrite) :
    (accessField o name args).Meets C C.value := by
  unfold accessField
  refine meets_heap.bind ?_
  rintro _ ⟨m, hm, rfl⟩
  split
  · next v hfield =>
    exact (meets_check args _).bind fun _ _ => .pure ((Lawful.contents hm).field? hfield)
  · split
    · next field hfield =>
      refine (meets_check args _).bind fun _ hsize => (meets_arg hsize).bind fun v hmem => ?_
      refine (meets_intern field).bind fun s _ => ?_
      have hmay : C.MayWrite := hwrite (hfield ▸ rfl)
      have hput : ∀ h : Heap, h.All C.value → (h.setField o s v).All C.value :=
        fun h hh => hh.setField (hargs v hmem)
      exact (meets_setHeap hmay hput fun _ => rfl).bind fun _ _ => .pure (hargs v hmem)
    · exact meets_fail _

variable (hfaults : ∀ e, C.faults e) (hset : C.MaySet) (hname : ∀ s, C.MayName s)
  (hwrite : C.MayWrite) (hh : host.Meets C) (hs : C.SendsAll send)

include hh hs

include hfaults in
theorem meets_callProc {p : Proc} (hp : C.value (.proc p)) (hargs : ∀ v ∈ args.items, C.value v) :
    (callProc host send p args).Meets C C.value := by
  unfold callProc
  split
  · next name _ =>
    refine (meets_check args _).bind fun _ hsize => (meets_arg hsize).bind fun receiver hmem => ?_
    exact (meets_shift hsize).bind fun rest hrest => hs (hargs _ hmem) name fun w hw =>
      hargs w (hrest.2 w hw)
  · next b hbody =>
    refine (ProcMethod.meets_parameters hs.sends (.inl (hfaults _)) hargs).bind
      fun items hitems => ?_
    exact hh.block hp hbody hs hitems.1

include hfaults hset hname hwrite

theorem meets_dispatch (hreceiver : C.value receiver) (message : Symbol)
    (hargs : ∀ v ∈ args.items, C.value v) :
    (dispatch host send receiver message args).Meets C C.value := by
  refine (meets_findMethod receiver message).bind fun found hfound => ?_
  rcases found with _ | b | native
  · cases receiver with
    | object o => exact meets_accessField o message hargs fun _ => hwrite
    | _ => exact meets_fail _
  · refine Builtin.Permits.meets_run hs.sends ⟨?_, ?_, ?_, ?_, ?_, ?_, ?_⟩ hreceiver hargs
    · exact fun _ _ _ _ => hset
    · exact fun _ s _ => hname s
    · exact fun _ _ _ => hwrite
    · exact fun _ _ _ => ⟨hwrite, hfaults _⟩
    · rintro - p rfl
      exact meets_callProc hfaults hh hs hreceiver hargs
    · exact fun _ => .inl (hfaults _)
    · exact fun _ => .inl (hfaults _)
  · exact hh.method native (hfound _ rfl) hs hreceiver hargs

omit hs

theorem sendsAll_sendWithin (n : ℕ) : C.SendsAll (sendWithin host n) := by
  -- By induction on the stack: whatever is sent meets a contract that allows faults and all
  -- changes.
  induction n with
  | zero => exact fun _ _ _ _ => meets_fault (hfaults _)
  | succ n ih =>
    exact fun hv message _ hargs => meets_dispatch hfaults hset hname hwrite hh ih hv message hargs

end Eval

end LateBinding
