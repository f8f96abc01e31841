import LateBinding.Conversion
import LateBinding.Proofs.Value.Equality
import LateBinding.Proofs.Value.Intact
import LateBinding.Proofs.Value.Showing
import Mathlib.Data.List.Infix

/-! # What computations rely on and what they keep

A contract says what holds of all machines and values that a computation meets, what may become of a
machine, and how a computation may fault. A computation meets the contract when it keeps it from
every machine on, whether it answers or fails. The steps that all methods are made of meet every
lawful contract; setting the register of the last match and writing in old contents need a
permission.
-/

namespace LateBinding

/-- Old contents stay, and identities are not drawn again. -/
structure Heap.Grows (h h' : Heap) : Prop where
  arrays : h.arrays.toList <+: h'.arrays.toList
  hashes : h.hashes.toList <+: h'.hashes.toList
  objects : h.objects.toList <+: h'.objects.toList
  names : h.strings.names <:+ h'.strings.names
  texts : h.strings.next ≤ h'.strings.next
  next : h.next ≤ h'.next
  address : h'.address = h.address

theorem Array.getElem?_of_prefix {α : Type} {as bs : Array α} (h : as.toList <+: bs.toList) {i : ℕ}
    (hi : i < as.size) : bs[i]? = as[i]? := by
  obtain ⟨rest, hrest⟩ := h
  rw [← Array.getElem?_toList, ← Array.getElem?_toList, ← hrest, List.getElem?_append_left hi]

namespace Heap

variable (h : Heap)

theorem Grows.refl : h.Grows h :=
  ⟨List.prefix_rfl, List.prefix_rfl, List.prefix_rfl, List.suffix_rfl, le_rfl, le_rfl, rfl⟩

theorem Grows.trans {h h' h'' : Heap} (hg : h.Grows h') (hg' : h'.Grows h'') : h.Grows h'' where
  arrays := hg.arrays.trans hg'.arrays
  hashes := hg.hashes.trans hg'.hashes
  objects := hg.objects.trans hg'.objects
  names := hg.names.trans hg'.names
  texts := hg.texts.trans hg'.texts
  next := hg.next.trans hg'.next
  address := hg'.address.trans hg.address

/-- What is in an array stays in it when the heap grows, and so it is with hashes and objects. -/
theorem Grows.array_eq {h h' : Heap} (hg : h.Grows h') {r : ℕ} (hr : r < h.arrays.size) :
    r < h'.arrays.size ∧ h'.array r = h.array r := by
  refine ⟨hr.trans_le hg.arrays.length_le, ?_⟩
  rw [array, array, Array.getElem?_of_prefix hg.arrays hr]

theorem Grows.hash_eq {h h' : Heap} (hg : h.Grows h') {r : ℕ} (hr : r < h.hashes.size) :
    h'.hash r = h.hash r := by
  rw [hash, hash, Array.getElem?_of_prefix hg.hashes hr]

theorem Grows.fields_eq {h h' : Heap} (hg : h.Grows h') {o : Object} (ho : o.ref < h.objects.size) :
    h'.fields o = h.fields o := by
  rw [fields, fields, Array.getElem?_of_prefix hg.objects ho]

theorem grows_newString (text : String) : h.Grows (h.newString text).2 :=
  ⟨List.prefix_rfl, List.prefix_rfl, List.prefix_rfl, List.suffix_rfl, Nat.le_succ _, le_rfl, rfl⟩

theorem grows_nameString (s : Symbol) : h.Grows (h.nameString s).2 := by
  unfold nameString StringStore.nameOf
  cases h.strings.name? s with
  | some _ => exact .refl h
  | none =>
    exact ⟨List.prefix_rfl, List.prefix_rfl, List.prefix_rfl, List.suffix_cons _ _, Nat.le_succ _,
      le_rfl, rfl⟩

theorem grows_newArray (items : List Value) : h.Grows (h.newArray items).2 :=
  ⟨by simp [newArray], List.prefix_rfl, List.prefix_rfl, List.suffix_rfl, le_rfl, le_rfl, rfl⟩

theorem grows_newObject (cls : Symbol) (fields : List (Symbol × Value)) :
    h.Grows (h.newObject cls fields).2 :=
  ⟨List.prefix_rfl, List.prefix_rfl, by simp [newObject], List.suffix_rfl, le_rfl, le_rfl, rfl⟩

theorem grows_fresh : h.Grows h.fresh.2 :=
  ⟨List.prefix_rfl, List.prefix_rfl, List.prefix_rfl, List.suffix_rfl, le_rfl, Nat.le_succ _, rfl⟩

end Heap

/-- What holds of machines and of values, what becomes of a machine, and which faults may arise. -/
structure Contract where
  machine : Machine → Prop
  value : Value → Prop
  step : Machine → Machine → Prop
  faults : Fault → Prop

namespace Contract

/-- Interning a name, taking new room on the heap and moving a cursor are in the contract. So are
all intact values without native code, and without panics there are intact ones only. -/
class Lawful (C : Contract) : Prop where
  refl (m : Machine) : C.step m m
  trans {l m n : Machine} : C.step l m → C.step m n → C.step l n
  keep {m n : Machine} : C.machine m → C.step m n → C.machine n
  contents {m : Machine} : C.machine m → m.heap.All C.value
  made {v : Value} : v.Intact (fun _ => False) → C.value v
  sound : C.faults .panic ∨ ∀ v, C.value v → v.Intact fun _ => True
  symbols {m : Machine} (name : String) : C.machine m →
    C.step m { m with symbols := (m.symbols.intern name).2 }
  heap {m : Machine} {h : Heap} : C.machine m → m.heap.Grows h →
    h.strings.names = m.heap.strings.names →
    h.All C.value → C.step m { m with heap := h }
  users {m : Machine} (i : ℕ) : C.machine m → C.step m { m with userCursor := i }
  groups {m : Machine} (i : ℕ) : C.machine m → C.step m { m with groupCursor := i }

def Has (C : Contract) (method : Method) : Prop :=
  ∃ m, C.machine m ∧ ∃ c s, m.methods.get? c s = some method

def MaySet (C : Contract) : Prop :=
  ∀ m v, C.machine m → C.value v → C.step m { m with lastMatch := v }

def MayWrite (C : Contract) : Prop :=
  ∀ m h, C.machine m → h.strings = m.heap.strings → h.All C.value → C.step m { m with heap := h }

def MayName (C : Contract) (s : Symbol) : Prop :=
  ∀ m, C.machine m → C.step m { m with heap := (m.heap.nameString s).2 }

/-- One may go into these values: in the end there is nothing more inside. -/
def Ends (C : Contract) (vs : List Value) : Prop :=
  C.faults .endless ∨ ∀ m, C.machine m → ∀ v ∈ vs, m.heap.Showable v

def Allows {α : Type} (C : Contract) (Q : α → Prop) (m : Machine) :
    EStateM.Result Fault Machine α → Prop
  | .ok a m' => C.step m m' ∧ Q a
  | .error (.error _) m' => C.step m m'
  | .error e m' => C.step m m' ∧ C.faults e

end Contract

/-- A number of parameters that a block is given: at least `min`, unless a spread array is cut down
to `max`, and at most `max`, unless they are filled up to `min`. -/
def Args.InWindow (min : ℕ) (max : Option ℕ) (n : ℕ) : Prop :=
  (min ≤ n ∨ max = some n) ∧ ∀ k ∈ max, n ≤ k ∨ n = min

def Args.kept : Option ℕ → ℕ → ℕ
  | none, n => n
  | some k, n => min n k

/-- Whether `nil`s have to be added up to a minimum that there is no room for. -/
def Args.Exceeds (low : ℕ) (high : Option ℕ) (n : ℕ) : Prop := kept high n < low ∧ room < low

instance (low : ℕ) (high : Option ℕ) (n : ℕ) : Decidable (Args.Exceeds low high n) :=
  inferInstanceAs (Decidable (_ ∧ _))

def Arity.least : Arity → ℕ
  | .exactly n | .between n _ | .atLeast n => n

theorem Arity.least_le_of_accepts {a : Arity} {given : ℕ} (h : a.accepts given = true) :
    a.least ≤ given := by
  cases a <;> simp [Arity.accepts, Arity.least] at h ⊢ <;> omega

namespace Eval

variable {C : Contract} {α β : Type} {P Q : α → Prop} {R : β → Prop} {x : Eval α} {f : α → Eval β}
  {m m' : Machine} {args : Args} {v : Value}

/-- From every machine of the contract on, the computation keeps it, and what it answers is as it
should. -/
structure Meets (C : Contract) (Q : α → Prop) (x : Eval α) : Prop where
  allows : ∀ m, C.machine m → C.Allows Q m (x m)

theorem Meets.imp (hx : x.Meets C P) (h : ∀ a, P a → Q a) : x.Meets C Q := by
  refine ⟨fun m hm => ?_⟩
  have hxm := hx.allows m hm
  unfold Contract.Allows at hxm ⊢
  split at hxm
  · exact ⟨hxm.1, h _ hxm.2⟩
  · exact hxm
  · exact hxm

variable [C.Lawful]

theorem Meets.pure {a : α} (ha : Q a) : (Pure.pure a : Eval α).Meets C Q :=
  ⟨fun m _ => ⟨Contract.Lawful.refl m, ha⟩⟩

theorem allows_of_step {r : EStateM.Result Fault Machine α} (hstep : C.step m m')
    (hr : C.Allows Q m' r) : C.Allows Q m r := by
  unfold Contract.Allows at hr ⊢
  split at hr
  · exact hr.imp_left (Contract.Lawful.trans hstep)
  · exact Contract.Lawful.trans hstep hr
  · exact hr.imp_left (Contract.Lawful.trans hstep)

theorem Meets.bind (hx : x.Meets C P) (hf : ∀ a, P a → (f a).Meets C R) : (x >>= f).Meets C R := by
  refine ⟨fun m hm => ?_⟩
  have hxm := hx.allows m hm
  change C.Allows R m (EStateM.bind x f m)
  unfold EStateM.bind
  unfold Contract.Allows at hxm
  split at hxm
  · next a m' heq =>
    rw [heq]
    obtain ⟨hstep, ha⟩ := hxm
    exact allows_of_step hstep ((hf a ha).allows m' (Contract.Lawful.keep hm hstep))
  · next e m' heq =>
    rw [heq]
    exact hxm
  · next e m' _ heq =>
    rw [heq]
    unfold Contract.Allows
    split <;> simp_all

theorem meets_fail (e : RunError) : (fail e : Eval α).Meets C Q :=
  ⟨fun m _ => Contract.Lawful.refl m⟩

theorem meets_fault {e : Fault} (he : C.faults e) : (throw e : Eval α).Meets C Q := by
  refine ⟨fun m _ => ?_⟩
  change C.Allows Q m (.error e m)
  cases e with
  | error e => exact Contract.Lawful.refl m
  | _ => exact ⟨Contract.Lawful.refl m, he⟩

theorem meets_orPanic {a : Option α} (ha : C.faults .panic ∨ a.isSome = true) :
    (orPanic a).Meets C (a = some ·) := by
  cases a with
  | some a => exact .pure rfl
  | none => exact meets_fault (ha.resolve_right Bool.false_ne_true)

theorem meets_orEndless {a : Option α} (ha : C.faults .endless ∨ a.isSome = true) :
    (orEndless a).Meets C (a = some ·) := by
  cases a with
  | some a => exact .pure rfl
  | none => exact meets_fault (ha.resolve_right Bool.false_ne_true)

theorem meets_ofExcept (a : Except RunError α) : (ofExcept a).Meets C (a = .ok ·) := by
  cases a with
  | ok a => exact .pure rfl
  | error e => exact meets_fail e

theorem meets_get : (get : Eval Machine).Meets C C.machine :=
  ⟨fun m hm => ⟨Contract.Lawful.refl m, hm⟩⟩

/-- What is read from the heap is read from that of some machine of the contract. -/
theorem meets_heap : heap.Meets C fun h => ∃ m, C.machine m ∧ h = m.heap :=
  meets_get.bind fun m hm => .pure ⟨m, hm, rfl⟩

theorem meets_onHeap {g : Heap → α × Heap} (hgrows : ∀ h : Heap, h.Grows (g h).2)
    (hnames : ∀ h, (g h).2.strings.names = h.strings.names)
    (hall : ∀ h : Heap, h.All C.value → (g h).2.All C.value) (ha : ∀ h, Q (g h).1) :
    (onHeap g).Meets C Q := by
  refine ⟨fun m hm => ⟨?_, ha m.heap⟩⟩
  exact Contract.Lawful.heap hm (hgrows m.heap) (hnames m.heap)
    (hall _ (Contract.Lawful.contents hm))

theorem meets_intern (name : String) : (intern name).Meets C fun _ => True :=
  ⟨fun _ hm => ⟨Contract.Lawful.symbols name hm, trivial⟩⟩

omit [C.Lawful] in
theorem meets_setLastMatch (hset : C.MaySet) (hv : C.value v) :
    (setLastMatch v).Meets C fun _ => True :=
  ⟨fun m hm => ⟨hset m v hm hv, trivial⟩⟩

theorem meets_setHeap (hwrite : C.MayWrite) {g : Heap → Heap}
    (hall : ∀ h : Heap, h.All C.value → (g h).All C.value)
    (hstrings : ∀ h, (g h).strings = h.strings) : (setHeap g).Meets C fun _ => True :=
  ⟨fun m hm => ⟨hwrite m _ hm (hstrings _) (hall _ (Contract.Lawful.contents hm)), trivial⟩⟩

theorem meets_freshString (text : String) :
    (newString text).Meets C fun v => ∃ s : Str, v = .string s := by
  refine (meets_onHeap (Q := fun _ => True) (fun h => h.grows_newString text) (fun _ => rfl)
    (fun _ hh => ⟨hh.arrays, hh.hashes, hh.objects⟩) fun _ => trivial).bind fun s _ => ?_
  exact .pure ⟨s, rfl⟩

theorem meets_newString (text : String) : (newString text).Meets C C.value := by
  refine (meets_freshString text).imp ?_
  rintro _ ⟨s, rfl⟩
  exact Contract.Lawful.made trivial

theorem meets_newArray {items : List Value} (hv : ∀ v ∈ items, C.value v) :
    (newArray items).Meets C C.value := by
  refine (meets_onHeap (Q := fun _ => True) (fun h => h.grows_newArray items) (fun _ => rfl)
    (fun _ hh => hh.newArray hv) fun _ => trivial).bind fun r _ => ?_
  exact .pure (Contract.Lawful.made (v := .array r) trivial)

theorem meets_fresh : (onHeap (·.fresh)).Meets C fun _ => True :=
  meets_onHeap Heap.grows_fresh (fun _ => rfl) (fun _ hh => ⟨hh.arrays, hh.hashes, hh.objects⟩)
    fun _ => trivial

theorem meets_optionalString (text : Option String) : (optionalString text).Meets C C.value := by
  cases text with
  | some text => exact meets_newString text
  | none => exact .pure (Contract.Lawful.made trivial)

theorem meets_check_accepts (args : Args) (expected : Arity) :
    (check args expected).Meets C fun _ => expected.accepts args.size = true := by
  refine (meets_ofExcept (args.check expected)).imp fun _ hok => ?_
  unfold Args.check at hok
  split at hok
  · next haccepts => exact haccepts
  · cases hok

theorem meets_check (args : Args) (expected : Arity) :
    (check args expected).Meets C fun _ => expected.least ≤ args.size :=
  (meets_check_accepts args expected).imp fun _ => Arity.least_le_of_accepts

theorem meets_arg {i : ℕ} (hi : i < args.size) : (arg args i).Meets C (· ∈ args.items) := by
  have hsome : (args.get? i).isSome = true := by
    unfold Args.get?
    rw [List.getElem?_eq_getElem hi]
    rfl
  exact (meets_orPanic (.inr hsome)).imp fun v hv => List.mem_of_getElem? hv

theorem meets_shift (hsize : 0 < args.size) :
    (shift args).Meets C fun rest => rest.size < args.size ∧ ∀ v ∈ rest.items, v ∈ args.items := by
  obtain ⟨items, keywords⟩ := args
  rcases items with _ | ⟨v, _ | ⟨w, rest⟩⟩
  · exact absurd hsize (Nat.lt_irrefl 0)
  · exact .pure ⟨hsize, by simp [Args.empty]⟩
  · exact .pure ⟨Nat.lt_succ_self _, fun x hx => List.mem_cons_of_mem _ hx⟩

theorem meets_sum {a b : ℤ} (h : C.faults .panic ∨ IsWord (a + b)) :
    (sum a b).Meets C (· = a + b) := by
  unfold sum
  split
  · exact .pure rfl
  · next hout => exact meets_fault (h.resolve_right hout)

theorem meets_sum_of_sized {i : Int64} {n : ℕ} (hi : i.toInt < 0) (hn : C.faults .panic ∨ Sized n) :
    (sum i.toInt n).Meets C fun _ => True := by
  refine (meets_sum (hn.imp_right fun hn => ?_)).imp fun _ _ => trivial
  have hmin := i.le_toInt
  unfold Sized at hn
  unfold IsWord
  unfold wordBound at *
  omega

theorem value_ordering (o : Ordering) : C.value (ordering o) := by
  cases o <;> exact Contract.Lawful.made trivial

theorem meets_wrongArgument (v : Value) (expected : String) :
    (wrongArgument v expected : Eval α).Meets C Q := meets_fail _

theorem meets_classOf (v : Value) : (classOf v).Meets C fun _ => True := by
  unfold classOf
  split
  · exact .pure trivial
  · exact meets_intern _

theorem meets_findMethod (receiver : Value) (name : Symbol) :
    (findMethod receiver name).Meets C fun found => ∀ method ∈ found, C.Has method := by
  refine (meets_classOf receiver).bind fun c _ => meets_get.bind fun m hm =>
    .pure fun method hfound => ?_
  rcases Option.or_eq_some_iff.mp hfound with h | ⟨-, h⟩
  · exact ⟨m, hm, c, name, h⟩
  · exact ⟨m, hm, m.objectClass, name, h⟩

theorem meets_respondsTo (receiver : Value) (name : Symbol) :
    (respondsTo receiver name).Meets C fun _ => True := by
  unfold respondsTo
  refine (meets_findMethod receiver name).bind fun found _ => ?_
  cases found with
  | some _ => exact .pure trivial
  | none => exact meets_heap.bind fun _ _ => .pure trivial

theorem meets_respondsToName (receiver : Value) (name : String) :
    (respondsToName receiver name).Meets C fun _ => True :=
  (meets_intern name).bind fun s _ => meets_respondsTo receiver s

end Eval

namespace Contract

variable {C : Contract} {vs ws : List Value}

theorem Ends.subset (h : C.Ends vs) (hws : ∀ w ∈ ws, w ∈ vs) : C.Ends ws :=
  h.imp_right fun h m hm w hw => h m hm w (hws w hw)

theorem Ends.cons_flat {v : Value} (h : C.Ends vs) (hv : v.place? = none) : C.Ends (v :: vs) :=
  h.imp_right fun h m hm => List.forall_mem_cons.mpr ⟨.of_flat hv, h m hm⟩

end Contract

namespace Eval

variable {C : Contract} [C.Lawful] {vs : List Value} {m : Machine} {v w : Value} {r : ℕ}

variable (hends : C.Ends vs) (hm : C.machine m)

include hends hm

theorem meets_inspect (hv : v ∈ vs) : (orEndless (m.heap.inspect? v)).Meets C fun _ => True :=
  (meets_orEndless (hends.imp_right fun h => Heap.isSome_inspect?.mpr (h m hm v hv).acc)).imp
    fun _ _ => trivial

theorem meets_display (hv : v ∈ vs) : (orEndless (m.heap.display? v)).Meets C fun _ => True := by
  have hinspect : C.faults .endless ∨ (m.heap.inspect? v).isSome = true :=
    hends.imp_right fun h => Heap.isSome_inspect?.mpr (h m hm v hv).acc
  refine (meets_orEndless (hinspect.imp_right fun h => ?_)).imp fun _ _ => trivial
  cases v <;> first | rfl | exact h

theorem meets_eql (hv : v ∈ vs) (hw : w ∈ vs) :
    (orEndless (m.heap.eql? none v w)).Meets C fun _ => True := by
  refine (meets_orEndless (hends.imp_right fun h => ?_)).imp fun _ _ => trivial
  rw [(h m hm v hv).nested.eql?_eq_some (h m hm w hw).nested]
  rfl

theorem meets_hashGet (hr : .hash r ∈ vs) (hv : v ∈ vs) :
    (orEndless (m.heap.hashGet? r v)).Meets C fun found => ∀ w ∈ found, C.value w := by
  refine (meets_orEndless (hends.imp_right fun h => ?_)).imp ?_
  · have hkeys : ∀ e ∈ m.heap.hash r, m.heap.Nested e.1 := fun e he =>
      (h m hm _ hr).nested.part (Heap.key_mem_parts he)
    rw [Heap.hashGet?, (h m hm v hv).nested.lookUp? hkeys]
    rfl
  · rintro _ hfound w rfl
    exact (Contract.Lawful.contents hm).hashGet? hfound

end Eval

def Builtin.conversions : List String := ["to_ary", "to_str", "to_int", "=="]

def Builtin.derivations : List String := ["succ", "upcase", "downcase", "swapcase", "capitalize"]

namespace Contract

/-- What the built-in methods send on their own meets the contract. Only equality goes into its
operands, and only what is derived from a symbol goes into the arguments. -/
structure Sends (C : Contract) (send : Sender) : Prop where
  convert : ∀ {v}, C.value v → ∀ name ∈ Builtin.conversions, ∀ {args : Args},
    (∀ w ∈ args.items, C.value w) → (name = "==" → C.Ends (v :: args.items)) →
      (send.byName v name args).Meets C C.value
  derive : ∀ s, ∀ name ∈ Builtin.derivations, ∀ {args : Args},
    (∀ w ∈ args.items, C.value w) → C.Ends args.items →
    (send.byName (.string s) name args).Meets C C.value

def SendsAll (C : Contract) (send : Sender) : Prop :=
  ∀ {v}, C.value v → ∀ name {args : Args}, (∀ w ∈ args.items, C.value w) →
    (send v name args).Meets C C.value

variable {C : Contract} [C.Lawful] {send : Sender}

theorem SendsAll.byName (hs : C.SendsAll send) {v : Value} (hv : C.value v) (name : String)
    {args : Args} (hargs : ∀ w ∈ args.items, C.value w) :
    (send.byName v name args).Meets C C.value :=
  (Eval.meets_intern name).bind fun s _ => hs hv s hargs

theorem SendsAll.sends (hs : C.SendsAll send) : C.Sends send where
  convert hv name _ _ hargs _ := hs.byName hv name hargs
  derive s name _ _ hargs _ := hs.byName (v := .string s) (Lawful.made trivial) name hargs

end Contract

namespace Eval

variable {C : Contract} [C.Lawful] {send : Sender} {v : Value} {args : Args}

theorem meets_wrap (hv : C.value v) : (wrap v).Meets C fun _ => True :=
  meets_onHeap (fun h => h.grows_newArray [v]) (fun _ => rfl)
    (fun _ hh => hh.newArray (by simpa using hv)) fun _ => trivial

theorem meets_badConversion {α : Type} {Q : α → Prop} (v answer : Value) (target method : String) :
    (badConversion v answer target method : Eval α).Meets C Q := meets_fail _

theorem meets_toAry (hs : C.Sends send) (hv : C.value v) (strict : Bool) :
    (toAry send v strict).Meets C fun _ => True := by
  unfold toAry
  split
  · exact .pure trivial
  · refine (meets_respondsToName v _).bind fun answers _ => ?_
    cases answers with
    | false => exact meets_wrap hv
    | true =>
      refine (hs.convert hv "to_ary" (by decide) (by simp [Args.empty]) (by simp)).bind
        fun answer _ => ?_
      split
      · exact .pure trivial
      · exact meets_wrap hv
      · split
        · exact meets_badConversion _ _ _ _
        · exact meets_wrap hv

theorem meets_toStr (hs : C.Sends send) (hv : C.value v) :
    (toStr send v).Meets C fun _ => True := by
  unfold toStr
  split
  · exact .pure trivial
  · refine (meets_respondsToName v _).bind fun answers _ => ?_
    cases answers with
    | false => exact meets_fail _
    | true =>
      refine (hs.convert hv "to_str" (by decide) (by simp [Args.empty]) (by simp)).bind
        fun answer _ => ?_
      split
      · exact .pure trivial
      · exact meets_badConversion _ _ _ _

theorem meets_toInt (hs : C.Sends send) (hv : C.value v) :
    (toInt send v).Meets C fun _ => True := by
  cases v with
  | integer n => exact .pure trivial
  | nil => exact meets_fail _
  | _ =>
    refine (meets_respondsToName _ _).bind fun answers _ => ?_
    cases answers with
    | false => exact meets_fail _
    | true =>
      refine (hs.convert hv "to_int" (by decide) (by simp [Args.empty]) (by simp)).bind
        fun answer _ => ?_
      split
      · exact .pure trivial
      · exact meets_badConversion _ _ _ _

theorem meets_padded {min : ℕ} {items : List Value}
    (hroom : C.faults .panic ∨ min ≤ Args.room ∨ min ≤ items.length)
    (hv : ∀ v ∈ items, C.value v) :
    (orPanic (Args.padded? min items)).Meets C fun padded =>
      (∀ v ∈ padded, C.value v) ∧ padded.length = max items.length min := by
  unfold Args.padded?
  split
  · next hless => exact meets_fault (hroom.resolve_right (by omega))
  · refine .pure ⟨?_, ?_⟩
    · intro v hmem
      rcases List.mem_append.mp hmem with hmem | hmem
      · exact hv v hmem
      · rw [List.eq_of_mem_replicate hmem]
        exact Contract.Lawful.made trivial
    · rw [List.length_append, List.length_replicate]
      omega

theorem meets_bindBlock (hs : C.Sends send) (hv : ∀ v ∈ args.items, C.value v) {min : ℕ}
    {max : Option ℕ} (hroom : C.faults .panic ∨ ¬ Args.Exceeds min max args.size) (spread : Bool) :
    (bindBlock send args min max spread).Meets C fun items =>
      (∀ v ∈ items, C.value v) ∧ Args.InWindow min max items.length := by
  unfold bindBlock
  split
  · next v hitems =>
    have hone : C.faults .panic ∨ min ≤ Args.room := by
      refine hroom.imp_right fun hfree => ?_
      have hpositive : 1 ≤ Args.room := by decide
      have hsize : args.size = 1 := by rw [Args.size, hitems, List.length_singleton]
      by_contra hless
      have hkept : Args.kept max args.size ≤ 1 := by
        rw [hsize]
        cases max with
        | none => exact le_rfl
        | some k => exact Nat.min_le_left 1 k
      exact hfree ⟨by omega, by omega⟩
    refine (meets_toAry hs (hv v (by simp [hitems])) true).bind fun ref _ => meets_heap.bind ?_
    rintro _ ⟨m, hm, rfl⟩
    have hitems : ∀ w ∈ m.heap.array ref, C.value w := fun w hw =>
      (Contract.Lawful.contents hm).array hw
    unfold Args.spreadOut?
    split
    · next k =>
      split
      · refine .pure ⟨fun w hw => hitems w (List.mem_of_mem_take hw), .inr ?_, ?_⟩
        · rw [List.length_take_of_le (by omega)]
        · rintro _ ⟨⟩
          exact .inl (List.length_take_le _ _)
      · refine (meets_padded (hone.imp_right .inl) hitems).imp ?_
        rintro items ⟨hvalues, hlength⟩
        refine ⟨hvalues, .inl (by omega), ?_⟩
        rintro _ ⟨⟩
        omega
    · refine (meets_padded (hone.imp_right .inl) hitems).imp ?_
      rintro items ⟨hvalues, hlength⟩
      refine ⟨hvalues, .inl (by omega), ?_⟩
      rintro _ ⟨⟩
  · unfold Args.fitted?
    split
    · next k =>
      have hroom : C.faults .panic ∨ min ≤ Args.room ∨ min ≤ (args.items.take k).length := by
        refine hroom.imp_right fun hfree => ?_
        by_contra! hless
        rw [List.length_take, Nat.min_comm] at hless
        exact hfree hless.symm
      refine (meets_padded hroom fun w hw => hv w (List.mem_of_mem_take hw)).imp ?_
      rintro items ⟨hvalues, hlength⟩
      have htake := List.length_take_le k args.items
      refine ⟨hvalues, .inl (by omega), ?_⟩
      rintro _ ⟨⟩
      omega
    · have hroom : C.faults .panic ∨ min ≤ Args.room ∨ min ≤ args.items.length := by
        refine hroom.imp_right fun hfree => ?_
        by_contra! hless
        exact hfree hless.symm
      refine (meets_padded hroom hv).imp ?_
      rintro items ⟨hvalues, hlength⟩
      refine ⟨hvalues, .inl (by omega), ?_⟩
      rintro _ ⟨⟩

end Eval

end LateBinding
