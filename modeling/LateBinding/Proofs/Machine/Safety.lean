import LateBinding.Proofs.Machine.Binding
import LateBinding.Proofs.Value.Growth
import LateBinding.Proofs.Value.Unchanged

/-! # No send panics

With the built-in methods only, a send answers or fails with an error of the program: no argument is
asked for that is not there, no text is cut where it cannot be, and no sum leaves the 64-bit
integers. What a machine and the values that a program holds must be like for that is kept by all
that a program can do.
-/

namespace LateBinding

open Eval

variable {m m' : Machine} {host : Host} {send : Sender} {n : ℕ} {receiver : Value} {args : Args}
  {given : List Value} {faults : Fault → Prop} {v : Value} {s : Symbol} {blocks : Block → Prop}

/-- What a send can deal with: there is room for the value, nothing inside it holds itself, and a
proc made from a symbol has a symbol of this table or of another one. -/
structure Machine.Handles (m : Machine) (v : Value) : Prop where
  fits : m.heap.Fits v
  showable : m.heap.Showable v
  genuine : ∀ p s, v = .proc p → p.body = .send s → m.Genuine s

structure Machine.Grows (m m' : Machine) : Prop where
  symbols : m.symbols.Extends m'.symbols
  heap : m.heap.Grows m'.heap

theorem Machine.Genuine.extends (hs : m.Genuine s) (h : m.symbols.Extends m'.symbols) :
    m'.Genuine s := by
  refine hs.imp h.mem_symbols fun htable => ?_
  rwa [h.tag]

theorem Machine.Grows.handles (h : m.Grows m') (hv : m.Handles v) : m'.Handles v := by
  refine ⟨?_, h.heap.showable hv.showable,
    fun p s hp hs => (hv.genuine p s hp hs).extends h.symbols⟩
  have hfits := hv.fits
  cases v with
  | array r =>
    have hr : r < m.heap.arrays.size := by simpa [Heap.places] using hv.showable.stored rfl
    have heq := (h.heap.array_eq hr).2
    change Sized (m'.heap.array r).length
    rw [heq]
    exact hfits
  | _ => exact hfits

/-- The built-in methods are the only ones, and the values that the machine has are intact. -/
structure Machine.Intact (blocks : Block → Prop) (m : Machine) : Prop where
  defines : m.Defines Builtin.definitions
  heap : m.heap.All (Value.Intact blocks)
  lastMatch : m.lastMatch.Intact blocks

namespace Contract

def intact (blocks : Block → Prop) (given : List Value) (faults : Fault → Prop) : Contract where
  machine m := m.Intact blocks ∧ ∀ v ∈ given, m.Handles v
  value := Value.Intact blocks
  step m m' := (m.Intact blocks ∧ ∀ v ∈ given, m.Handles v) →
    m'.Intact blocks ∧ ∀ v ∈ given, m'.Handles v
  faults := faults

instance : (intact blocks given faults).Lawful where
  refl _ := id
  trans h h' := h' ∘ h
  keep hm h := h hm
  contents hm := hm.1.heap
  made hv := hv.imp fun _ => False.elim
  sound := .inr fun _ hv => hv.imp fun _ _ => trivial
  symbols {m} name _ := by
    rintro ⟨hm, hgiven⟩
    have hgrows : m.Grows { m with symbols := (m.symbols.intern name).2 } :=
      ⟨m.symbols.extends_intern name, .refl _⟩
    exact ⟨⟨hm.defines.extends (Frame.symbols _ name), hm.heap, hm.lastMatch⟩, fun v hv =>
      hgrows.handles (hgiven v hv)⟩
  heap {m h} _ hg _ hall := by
    rintro ⟨hm, hgiven⟩
    have hgrows : m.Grows { m with heap := h } := ⟨.refl _, hg⟩
    exact ⟨⟨hm.defines.extends (Frame.heap _ _), hall, hm.lastMatch⟩,
      fun v hv => hgrows.handles (hgiven v hv)⟩
  users {m} i _ := by
    rintro ⟨hm, hgiven⟩
    have hgrows : m.Grows { m with userCursor := i } := ⟨.refl _, .refl _⟩
    exact ⟨⟨hm.defines.extends (Frame.users _ i), hm.heap, hm.lastMatch⟩,
      fun v hv => hgrows.handles (hgiven v hv)⟩
  groups {m} i _ := by
    rintro ⟨hm, hgiven⟩
    have hgrows : m.Grows { m with groupCursor := i } := ⟨.refl _, .refl _⟩
    exact ⟨⟨hm.defines.extends (Frame.groups _ i), hm.heap, hm.lastMatch⟩, fun v hv =>
      hgrows.handles (hgiven v hv)⟩

theorem maySet_intact : (intact blocks given faults).MaySet := by
  rintro m v - hv ⟨hm, hgiven⟩
  have hgrows : m.Grows { m with lastMatch := v } := ⟨.refl _, .refl _⟩
  exact ⟨⟨hm.defines.extends (Frame.register _ v), hm.heap, hv⟩,
    fun v hv => hgrows.handles (hgiven v hv)⟩

theorem mayName_intact (s : Symbol) : (intact blocks given faults).MayName s := by
  rintro m - ⟨hm, hgiven⟩
  have hgrows : m.Grows { m with heap := (m.heap.nameString s).2 } :=
    ⟨.refl _, m.heap.grows_nameString s⟩
  exact ⟨⟨hm.defines.extends (Frame.heap _ _), hm.heap.nameString s, hm.lastMatch⟩, fun v hv =>
    hgrows.handles (hgiven v hv)⟩

/-- Writing may take more room than what was given has, and may close a cycle. -/
theorem mayWrite_intact : (intact blocks [] faults).MayWrite := by
  rintro m h - - hall ⟨hm, -⟩
  exact ⟨⟨hm.defines.extends (Frame.heap _ h), hall, hm.lastMatch⟩, by simp⟩

theorem sends_intact (hn : 0 < n) : (intact blocks given faults).Sends (sendWithin host n) :=
  sends_sendWithin (C := intact blocks given faults) (fun _ hm => hm.1.defines) (.inr hn)

end Contract

def Builtin.calls : List String := ["call", "yield", "[]"]

theorem Builtin.name_of_call : ∀ e ∈ all, e.2.2 = .proc .call → e.2.1 ∈ calls := by decide

/-- A send is one of these, or a call of the proc of a symbol that passes it on as one of them. -/
inductive ComesTo (P : Value → String → List Value → Prop) : Value → String → List Value → Prop
  | here {receiver : Value} {name : String} {items : List Value} (h : P receiver name items) :
    ComesTo P receiver name items
  | passed {id : ℕ} {s : Symbol} {isLambda : Bool} {name : String} {receiver : Value}
    {items : List Value} (hname : name ∈ Builtin.calls) (h : ComesTo P receiver s.name items) :
    ComesTo P (.proc ⟨id, .send s, isLambda⟩) name (receiver :: items)

theorem ComesTo.exists_mem {P : Value → String → List Value → Prop} {name : String}
    {items : List Value} (h : ComesTo P receiver name items) :
    ∃ v ∈ receiver :: items, ∃ name items, P v name items := by
  induction h with
  | here h => exact ⟨_, List.mem_cons_self, _, _, h⟩
  | passed _ _ ih =>
    obtain ⟨v, hv, hsent⟩ := ih
    exact ⟨v, List.mem_cons_of_mem _ hv, hsent⟩

/-- A hash is to be written under a key that it is inside of. -/
inductive Heap.Blocks (h : Heap) : Value → String → List Value → Prop
  | store {r : ℕ} {key v : Value} (hkey : h.Inside (.hash r) key) :
    Blocks h (.hash r) "[]=" [key, v]

/-- A native block that is no lambda is called, and there is no room for what it is to be filled up
to. -/
inductive Overfills : Value → String → List Value → Prop
  | call {id : ℕ} {b : Block} {name : String} {items : List Value} (hname : name ∈ Builtin.calls)
    (h : Args.Exceeds b.min b.max items.length) : Overfills (.proc ⟨id, .block b, false⟩) name items

namespace Eval

variable {α β : Type} {x : Eval α} {f : α → Eval β} {a : α} {P : α → Prop}

/-- From a machine, a computation answers or fails with an error of the program, unless it panics
where it may. -/
def Returns (x : Eval α) (panics : Prop) (m : Machine) : Prop :=
  match x m with
  | .ok _ _ | .error (.error _) _ => True
  | .error .panic _ => panics
  | .error _ _ => False

theorem Meets.returns {Q : α → Prop} {panics : Prop}
    (hx : x.Meets (.intact blocks given fun e => e = .panic ∧ panics) Q)
    (hm : m.Intact blocks ∧ ∀ v ∈ given, m.Handles v) : x.Returns panics m := by
  have hxm := hx.allows m hm
  unfold Contract.Allows at hxm
  unfold Returns
  split at hxm
  · next heq =>
    rw [heq]
    trivial
  · next heq =>
    rw [heq]
    trivial
  · next heq =>
    obtain ⟨-, rfl, hpanics⟩ := hxm
    rw [heq]
    exact hpanics

theorem returns_of_error {panics : Prop} {e : RunError} (h : x m = .error (.error e) m') :
    x.Returns panics m := by
  unfold Returns
  rw [h]
  trivial

theorem returns_of_panic {panics : Prop} (hpanics : panics) (h : x m = .error .panic m') :
    x.Returns panics m := by
  unfold Returns
  rw [h]
  exact hpanics

theorem not_returns_of_panic (h : x m = .error .panic m') : ¬ x.Returns False m := by
  unfold Returns
  rw [h]
  exact id

theorem returns_of_eq {panics : Prop} {y : Eval α} (h : x m = y m') :
    x.Returns panics m ↔ y.Returns panics m' := by
  unfold Returns
  rw [h]

theorem Returns.mono {panics panics' : Prop} (hx : x.Returns panics m) (h : panics → panics') :
    x.Returns panics' m := by
  unfold Returns at hx ⊢
  split at hx
  · trivial
  · trivial
  · exact h hx
  · exact hx.elim

end Eval

namespace Host

variable {α β : Type} {x : Sender → Eval α} {f : Sender → α → Eval β} {P : α → Prop}

/-- On a stack that is deep enough, a computation answers or fails with an error of the program,
unless it panics where it may. -/
def Returns (host : Host) (x : Sender → Eval α) (panics : Prop) (m : Machine) : Prop :=
  ∃ depth, ∀ n ≥ depth, (x (sendWithin host n)).Returns panics m

theorem returns_of_meets {Q : α → Prop} {panics : Prop}
    (hx : ∀ n > 0, (x (sendWithin host n)).Meets
      (.intact blocks given fun e => e = .panic ∧ panics) Q)
    (hm : m.Intact blocks ∧ ∀ v ∈ given, m.Handles v) : host.Returns x panics m :=
  ⟨1, fun n hn => (hx n hn).returns hm⟩

theorem Returns.congr {panics : Prop} {y : Sender → Eval α} (hy : host.Returns y panics m')
    (h : ∀ n > 0, x (sendWithin host n) m = y (sendWithin host n) m') :
    host.Returns x panics m := by
  obtain ⟨depth, hdepth⟩ := hy
  refine ⟨depth + 1, fun n hn => ?_⟩
  exact (returns_of_eq (h n (by omega))).mpr (hdepth n (by omega))

theorem Returns.mono {panics panics' : Prop} (hx : host.Returns x panics m) (h : panics → panics') :
    host.Returns x panics' m := by
  obtain ⟨depth, hdepth⟩ := hx
  exact ⟨depth, fun n hn => (hdepth n hn).mono h⟩

/-- After a first part that does not depend on the stack, there are its answers to look at only. -/
theorem returns_bind {panics : Prop} {y : Eval α}
    (hy : y.Meets (.intact blocks given fun e => e = .panic ∧ panics) P)
    (hm : m.Intact blocks ∧ ∀ v ∈ given, m.Handles v) (h : ∀ n > 0, x (sendWithin host n) m = y m)
    (hf : ∀ a m', P a → m'.Intact blocks ∧ (∀ v ∈ given, m'.Handles v) →
      host.Returns (fun send => f send a) panics m') :
    host.Returns (fun send => x send >>= f send) panics m := by
  have hym := hy.allows m hm
  unfold Contract.Allows at hym
  split at hym
  · next a m' heq =>
    exact (hf a m' hym.2 (hym.1 hm)).congr fun n hn => bind_of_ok ((h n hn).trans heq)
  · next e m' heq =>
    exact ⟨1, fun n hn => returns_of_error (bind_of_error ((h n hn).trans heq))⟩
  · next e m' _ heq =>
    obtain ⟨-, rfl, hpanics⟩ := hym
    exact ⟨1, fun n hn => returns_of_panic hpanics (bind_of_error ((h n hn).trans heq))⟩

theorem returns_of_dispatch {panics : Prop}
    (h : host.Returns (fun send => dispatch host send receiver s args) panics m) :
    host.Returns (fun send => send receiver s args) panics m := by
  obtain ⟨depth, hdepth⟩ := h
  -- the dispatch itself takes a place on the stack
  refine ⟨depth + 1, fun n hn => ?_⟩
  cases n with
  | zero => omega
  | succ n => exact hdepth n (by omega)

/-- Native code leaves machines and values intact. That of these blocks answers or fails with an
error of the program, as long as it is given no fewer parameters than it asks for. -/
structure Behaves (host : Host) (blocks : Block → Prop) : Prop where
  intact : host.Meets (.intact blocks [] fun _ => True)
  returns : ∀ b, blocks b → ∀ items m, m.Intact blocks → (∀ v ∈ items, v.Intact blocks) →
    Args.InWindow b.min b.max items.length →
    host.Returns (fun send => host.block b.code send items) False m

theorem Behaves.of_nil (hmethod : ∀ name send v args, host.method name send v args = pure .nil)
    (hblock : ∀ code send items, host.block code send items = pure .nil) : host.Behaves blocks where
  intact := by
    constructor
    · intro name _ send _ v args _ _
      rw [hmethod]
      exact .pure trivial
    · intro p b _ _ send _ items _
      rw [hblock]
      exact .pure trivial
  returns b _ items m _ _ _ := by
    refine ⟨0, fun n _ => ?_⟩
    dsimp only
    rw [hblock]
    trivial

end Host

namespace Args

/-- The arguments but the first, without keywords when there are no others. -/
def rest (args : Args) : Args := ⟨args.items.tail, args.keywords && decide (1 < args.size)⟩

theorem size_rest (args : Args) : args.rest.size = args.size - 1 := args.items.length_tail

end Args

namespace Eval

variable {p : Proc}

theorem callProc_of_nil (hp : p.body = .send s) (h : args.items = []) :
    callProc host send p args = fail (.arity 0 (.atLeast 1)) := by
  obtain ⟨items, keywords⟩ := args
  subst h
  unfold callProc
  rw [hp]
  rfl

theorem callProc_of_cons (hp : p.body = .send s) {others : List Value}
    (h : args.items = receiver :: others) :
    callProc host send p args = send receiver s args.rest := by
  obtain ⟨items, keywords⟩ := args
  subst h
  unfold callProc
  rw [hp]
  cases others with
  | nil => cases keywords <;> rfl
  | cons w others => cases keywords <;> rfl

end Eval

section Send

/-- To find a method takes a symbol at most. -/
theorem Machine.Intact.exists_findMethod (hm : m.Intact blocks) (hs : m.Genuine s)
    (receiver : Value) :
    ∃ found m₁, findMethod receiver s m = .ok found m₁ ∧ m₁.Intact blocks ∧ m.Grows m₁ ∧
      m₁.heap = m.heap ∧
      ∀ method ∈ found, ∃ cls b, method = .builtin b ∧ (cls, s.name, b) ∈ Builtin.all := by
  obtain ⟨found, hfind, hdefined, -⟩ := hm.defines.exists_findMethod hs receiver
  have hext : m.Extends ((classOf receiver).after m) := keeps_classOf receiver m
  obtain ⟨hheap, hlast⟩ : ((classOf receiver).after m).heap = m.heap ∧
      ((classOf receiver).after m).lastMatch = m.lastMatch := by cases receiver <;> exact ⟨rfl, rfl⟩
  refine ⟨found, _, hfind, ?_, ⟨hext.symbols, hheap ▸ .refl _⟩, hheap, fun method hmethod => ?_⟩
  · exact ⟨hm.defines.extends hext, hheap ▸ hm.heap, hlast ▸ hm.lastMatch⟩
  · obtain ⟨cls, hmem⟩ := hdefined method hmethod
    exact ⟨cls, Builtin.mem_all_of_definition hmem⟩

theorem returns_withoutMethod (hm : m.Intact blocks) (receiver : Value) (s : Symbol)
    (hargs : ∀ v ∈ args.items, v.Intact blocks) :
    (Machine.withoutMethod receiver s args).Returns False m := by
  have hwrite : (Contract.intact blocks [] fun e => e = .panic ∧ False).MayWrite :=
    Contract.mayWrite_intact
  exact (Machine.meets_withoutMethod receiver s hargs fun _ => hwrite).returns ⟨hm, by simp⟩

/-- Adding to an array may write, and what any other method is given can be dealt with all the
while. -/
theorem returns_run_of_not_call {b : Builtin} (hcall : b = .proc .call → ∀ p, receiver ≠ .proc p)
    (hstore : b = .hash .set → ∀ r, receiver ≠ .hash r) (hm : m.Intact blocks)
    (hreceiver : receiver.Intact blocks) (hargs : ∀ v ∈ args.items, v.Intact blocks)
    (hgiven : ∀ v ∈ receiver :: args.items, m.Handles v) :
    host.Returns (fun send => b.run host send receiver args) False m := by
  by_cases hpush : b = .array .push
  · refine Host.returns_of_meets (Q := Value.Intact blocks) (fun n hn => ?_)
      ⟨hm, List.forall_mem_nil _⟩
    refine Builtin.Permits.meets_run (Contract.sends_intact hn) ⟨?_, ?_, ?_, ?_, ?_, ?_, ?_⟩
      hreceiver hargs
    · exact fun _ _ _ _ => Contract.maySet_intact
    · exact fun _ s _ => Contract.mayName_intact s
    · exact fun _ _ _ => Contract.mayWrite_intact
    · exact fun hb r hr => absurd hr (hstore hb r)
    · exact fun hb p hp => absurd hp (hcall hb p)
    · rintro hmeasuring
      rw [hpush] at hmeasuring
      cases hmeasuring
    · rintro hlooking
      rw [hpush] at hlooking
      cases hlooking
  · refine Host.returns_of_meets (Q := Value.Intact blocks) (fun n hn => ?_) ⟨hm, hgiven⟩
    refine Builtin.Permits.meets_run (Contract.sends_intact hn) ⟨?_, ?_, ?_, ?_, ?_, ?_, ?_⟩
      hreceiver hargs
    · exact fun _ _ _ _ => Contract.maySet_intact
    · exact fun _ s _ => Contract.mayName_intact s
    · exact fun hb => absurd hb hpush
    · exact fun hb r hr => absurd hr (hstore hb r)
    · exact fun hb p hp => absurd hp (hcall hb p)
    · exact fun _ => .inr fun m hm v hv => (hm.2 v hv).fits
    · exact fun _ => .inr fun m hm v hv => (hm.2 v hv).showable

/-- A hash is written under a key that does not lead back to it. -/
theorem returns_store {r : ℕ} (hgiven : ∀ v ∈ .hash r :: args.items, m.Handles v)
    (hfree : ¬ m.heap.Blocks (.hash r) "[]=" args.items) :
    (HashMethod.set.run (.hash r) args).Returns False m := by
  obtain ⟨items, keywords⟩ := args
  rcases items with _ | ⟨key, _ | ⟨v, _ | ⟨w, rest⟩⟩⟩
  · trivial
  · trivial
  · have hself := (hgiven _ List.mem_cons_self).showable.nested
    have hkey := (hgiven key (by simp)).showable.nested
    have hkeys : ∀ e ∈ m.heap.hash r, m.heap.Nested e.1 := fun e he =>
      hself.part (Heap.key_mem_parts he)
    have houts : ∀ e ∈ m.heap.hash r, ¬ m.heap.Inside (.hash r) e.1 := fun e he hin =>
      hself.not_inside_itself (Relation.TransGen.tail' hin (Heap.key_mem_parts he))
    have hstored := hkey.stored? hkeys (fun hin => hfree (.store hin)) houts v
    unfold Returns
    rw [HashMethod.run_set hstored keywords]
    trivial
  · trivial

variable (hh : host.Behaves blocks)

include hh

theorem returns_callProc_block {id : ℕ} {b : Block} {isLambda : Bool} (hm : m.Intact blocks)
    (hp : (Value.proc ⟨id, .block b, isLambda⟩).Intact blocks)
    (hargs : ∀ v ∈ args.items, v.Intact blocks) :
    host.Returns (fun send => callProc host send ⟨id, .block b, isLambda⟩ args)
      (isLambda = false ∧ Args.Exceeds b.min b.max args.size) m := by
  set panics := isLambda = false ∧ Args.Exceeds b.min b.max args.size
  have hroom : (Fault.panic = .panic ∧ panics) ∨ isLambda = true ∨
      ¬ Args.Exceeds b.min b.max args.size := by
    by_cases hpanics : panics
    · exact .inl ⟨rfl, hpanics⟩
    · refine .inr ?_
      cases isLambda with
      | true => exact .inl rfl
      | false => exact .inr fun h => hpanics ⟨rfl, h⟩
  have hparameters : (parameters (sendWithin host 1) isLambda b args).Meets
      (.intact blocks [] fun e => e = .panic ∧ panics) fun items =>
        (∀ v ∈ items, v.Intact blocks) ∧ Args.InWindow b.min b.max items.length :=
    ProcMethod.meets_parameters (Contract.sends_intact Nat.one_pos) hroom hargs
  refine Host.returns_bind hparameters ⟨hm, List.forall_mem_nil _⟩ (fun n hn => ?_)
    fun items m₁ hitems hm₁ => ?_
  · obtain ⟨n, rfl⟩ := Nat.exists_eq_succ_of_ne_zero hn.ne'
    exact hm.defines.parameters_eq n 0 isLambda b args
  · exact (hh.returns b hp.2 items m₁ hm₁.1 hitems.1 hitems.2).mono False.elim

theorem returns_send {m : Machine} {receiver : Value} {args : Args} {s : Symbol} (hs : m.Genuine s)
    (hm : m.Intact blocks) (hreceiver : receiver.Intact blocks)
    (hargs : ∀ v ∈ args.items, v.Intact blocks) (hgiven : ∀ v ∈ receiver :: args.items, m.Handles v)
    (hfree : ¬ ComesTo m.heap.Blocks receiver s.name args.items) :
    host.Returns (fun send => send receiver s args)
      (ComesTo Overfills receiver s.name args.items) m := by
  -- By induction on the number of arguments: only a proc that sends makes a send go on, with fewer
  -- of them.
  induction hsize : args.size using Nat.strong_induction_on generalizing m receiver s args with
  | _ size ih =>
  subst hsize
  obtain ⟨found, m₁, hfind, hm₁, hgrows, hheap, hbuiltin⟩ := hm.exists_findMethod hs receiver
  replace hgiven := fun v hv => hgrows.handles (hgiven v hv)
  suffices hanswer : host.Returns (fun send => Machine.answer host send receiver s args found)
      (ComesTo Overfills receiver s.name args.items) m₁ from
    Host.returns_of_dispatch (hanswer.congr fun n _ => Machine.dispatch_of_findMethod hfind)
  cases found with
  | none => exact ⟨0, fun n _ => (returns_withoutMethod hm₁ receiver s hargs).mono False.elim⟩
  | some method =>
    obtain ⟨cls, b, rfl, hall⟩ := hbuiltin method rfl
    by_cases hcall : b = .proc .call ∧ ∃ p, receiver = .proc p
    · obtain ⟨rfl, ⟨id, body, isLambda⟩, rfl⟩ := hcall
      have hname : s.name ∈ Builtin.calls := Builtin.name_of_call _ hall rfl
      change host.Returns (fun send => callProc host send ⟨id, body, isLambda⟩ args) _ m₁
      cases body with
      | block b =>
        refine (returns_callProc_block hh hm₁ hreceiver hargs).mono ?_
        rintro ⟨rfl, hover⟩
        exact .here (.call hname hover)
      | send t =>
        have hbody : (⟨id, .send t, isLambda⟩ : Proc).body = .send t := rfl
        rcases hitems : args.items with _ | ⟨v, others⟩
        · simp only [callProc_of_nil hbody hitems]
          exact ⟨0, fun _ _ => trivial⟩
        · simp only [callProc_of_cons hbody hitems]
          have hothers : args.rest.items = others := by rw [Args.rest, hitems, List.tail_cons]
          rw [hitems] at hargs hgiven hfree
          have ht : m₁.Genuine t := (hgiven _ List.mem_cons_self).genuine _ t rfl rfl
          have hless : args.rest.size < args.size := by
            rw [Args.size_rest, Args.size, hitems, List.length_cons]
            omega
          refine (ih _ hless ht hm₁ (hargs v List.mem_cons_self) ?_ ?_ ?_ rfl).mono ?_
          · exact hothers.symm ▸ fun w hw => hargs w (List.mem_cons_of_mem _ hw)
          · exact hothers.symm ▸ fun w hw => hgiven w (List.mem_cons_of_mem _ hw)
          · rw [hothers, hheap]
            exact fun h => hfree (.passed hname h)
          · rw [hothers]
            exact fun h => .passed hname h
    by_cases hstore : b = .hash .set ∧ ∃ r, receiver = .hash r
    · obtain ⟨rfl, r, rfl⟩ := hstore
      have hname : s.name = "[]=" := Machine.name_of_store _ hall rfl
      rw [hname, ← hheap] at hfree
      exact ⟨0, fun _ _ => (returns_store hgiven fun h => hfree (.here h)).mono False.elim⟩
    · refine (returns_run_of_not_call (fun hb p hp => hcall ⟨hb, p, hp⟩)
        (fun hb r hr => hstore ⟨hb, r, hr⟩) hm₁ hreceiver hargs hgiven).mono False.elim

end Send

/-- Machines that come of a configuration by interned names and sends, in any order, among which the
program around it may set the heap and the register of the last match. Its native code is that of
these blocks. -/
inductive Reachable (host : Host) (blocks : Block → Prop) (c : Config) : Machine → Prop
  | start {m : Machine} (hm : Machine.ofConfig c = .ok m) : Reachable host blocks c m
  | intern {m : Machine} (name : String) (hr : Reachable host blocks c m) :
    Reachable host blocks c ((Eval.intern name).after m)
  | send {m : Machine} (n : ℕ) {receiver : Value} (s : Symbol) {args : Args}
    (hreceiver : receiver.Intact blocks) (hargs : ∀ v ∈ args.items, v.Intact blocks)
    (hr : Reachable host blocks c m) :
    Reachable host blocks c ((sendWithin host n receiver s args).after m)
  | outside {m : Machine} {h : Heap} {v : Value} (hh : h.All (Value.Intact blocks))
    (hv : v.Intact blocks) (hr : Reachable host blocks c m) :
    Reachable host blocks c { m with heap := h, lastMatch := v }

theorem Host.Behaves.meets_send (hh : host.Behaves blocks) (n : ℕ)
    (hreceiver : receiver.Intact blocks) (s : Symbol) (hargs : ∀ v ∈ args.items, v.Intact blocks) :
    (sendWithin host n receiver s args).Meets (.intact blocks [] fun _ => True)
      (Value.Intact blocks) :=
  sendsAll_sendWithin (fun _ => trivial) Contract.maySet_intact Contract.mayName_intact
    Contract.mayWrite_intact hh.intact n hreceiver s hargs

theorem Machine.intact_build (c : Config) : (build c).Intact blocks := by
  obtain ⟨hheap, hlast⟩ := heap_build c
  refine ⟨defines_build c, ?_, ?_⟩
  · rw [hheap]
    exact Heap.all_empty
  · rw [hlast]
    trivial

theorem Reachable.intact {c : Config} (hh : host.Behaves blocks) (hr : Reachable host blocks c m) :
    m.Intact blocks := by
  induction hr with
  | start hm => exact Machine.ofConfig_eq hm ▸ Machine.intact_build c
  | intern name _ ih => exact ⟨ih.defines.extends (Eval.keeps_intern name _), ih.heap, ih.lastMatch⟩
  | send n s hreceiver hargs _ ih =>
    have hmachine := ((hh.meets_send n hreceiver s hargs).step_after ⟨ih, by simp⟩) ⟨ih, by simp⟩
    exact hmachine.1
  | outside hheap hv _ ih => exact ⟨ih.defines.extends ⟨rfl, rfl, .refl _⟩, hheap, hv⟩

def Host.second : Host where
  system := .ofLists [] [] []
  method _ _ _ _ := return .nil
  block _ _ items := orPanic items[1]?
  stack := 1

theorem Host.behaves_second : Host.second.Behaves fun b => b.min = 2 ∧ b.max = none where
  intact := by
    constructor
    · intro _ _ _ _ _ _ _ _
      exact .pure trivial
    · intro _ _ _ _ _ _ items hitems
      exact (meets_orPanic (.inl trivial)).imp fun v hv => hitems v (List.mem_of_getElem? hv)
  returns := by
    rintro ⟨min, max, spread, code⟩ ⟨rfl, rfl⟩ items m - - ⟨hwindow, -⟩
    have hlength : 1 < items.length := hwindow.resolve_right (by simp)
    refine ⟨0, fun n _ => ?_⟩
    change (orPanic items[1]?).Returns False m
    rw [List.getElem?_eq_getElem hlength]
    trivial

/-- A block that asks for more parameters than there is room for. -/
def Block.vast : Block := ⟨2 ^ 61, some (2 ^ 61), false, "vast"⟩

theorem callProc_vast (host : Host) (send : Sender) (m : Machine) :
    callProc host send ⟨0, .block .vast, false⟩ ⟨[], false⟩ m = .error .panic m := by
  have hbind : bindBlock send ⟨[], false⟩ (2 ^ 61) (some (2 ^ 61)) false m = .error .panic m := by
    rw [bindBlock_of_loose (.inl rfl), orPanic_fitted, if_pos]
    constructor <;> decide
  exact bind_of_error hbind

theorem not_returns_index_vast (hd : m.Defines Builtin.definitions) :
    ¬ host.Returns (fun send => send.byName (.proc ⟨0, .block .vast, false⟩) "[]" ⟨[], false⟩)
      False m := by
  rintro ⟨depth, hdepth⟩
  have hknows : m.Knows (.proc ⟨0, .block .vast, false⟩) := trivial
  have hfound : lastDefined Builtin.definitions "Proc" "[]" = some (.builtin (.proc .call)) := by
    decide
  have hpanic : Machine.reply host depth (.proc ⟨0, .block .vast, false⟩) "[]" ⟨[], false⟩ m =
      .error .panic _ :=
    ((hd.answers hknows).own _ hfound).trans (callProc_vast host (sendWithin host depth) _)
  exact not_returns_of_panic hpanic (hdepth (depth + 1) (Nat.le_succ depth))

end LateBinding
