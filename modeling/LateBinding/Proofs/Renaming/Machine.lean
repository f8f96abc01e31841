import LateBinding.Conversion
import LateBinding.Proofs.Renaming.Value

/-! # Runs up to a renaming of symbols

Machines stand for each other when their methods and contents do. Two computations agree when from
such machines on they come to one fault, or to answers that stand for each other, on machines that
do so again, under the renaming that the symbols they interned make of the first one. No step of a
method tells the machines apart.
-/

namespace LateBinding

open Eval

namespace Renaming

variable {ρ σ : Renaming} {m m' : Machine}

/-- Machines that stand for each other. How often interning has found a name is left open, and so is
which names the tables know. -/
structure Machines (ρ : Renaming) (m m' : Machine) : Prop where
  left : m.symbols = ρ.left
  right : m'.symbols = ρ.right
  methods : Entries.Related (fun k k' => ρ.Pairs k.1 k'.1 ∧ ρ.Pairs k.2 k'.2) Eq m.methods.entries
    m'.methods.entries
  objectClass : ρ.Pairs m.objectClass m'.objectClass
  heap : ρ.Heaps m.heap m'.heap
  lastMatch : ρ.Values m.lastMatch m'.lastMatch
  users : m.userCursor = m'.userCursor
  groups : m.groupCursor = m'.groupCursor

variable {c c' s s' : Symbol}

theorem isAt_eq (hc : ρ.Pairs c c') (hs : ρ.Pairs s s') {k k' : Symbol × Symbol}
    (hk : ρ.Pairs k.1 k'.1 ∧ ρ.Pairs k.2 k'.2) :
    MethodTable.isAt c s k = MethodTable.isAt c' s' k' := by
  rw [MethodTable.isAt, MethodTable.isAt, hk.1.same_eq hc, hk.2.same_eq hs]

theorem Machines.get?_eq (hm : ρ.Machines m m') (hc : ρ.Pairs c c') (hs : ρ.Pairs s s') :
    m.methods.get? c s = m'.methods.get? c' s' :=
  eq_of_rel (hm.methods.get? (isAt_eq hc hs))

theorem Machines.intern (hm : ρ.Machines m m') (name : String) :
    (ρ.intern name).Pairs (m.symbols.intern name).1 (m'.symbols.intern name).1 ∧
      (ρ.intern name).Machines { m with symbols := (m.symbols.intern name).2 }
        { m' with symbols := (m'.symbols.intern name).2 } := by
  have hle := ρ.le_intern name
  rw [hm.left, hm.right]
  refine ⟨ρ.pairs_intern name, ?_⟩
  exact {
    left := rfl
    right := rfl
    methods := hm.methods.imp fun _ _ he => ⟨⟨he.1.1.mono hle, he.1.2.mono hle⟩, he.2⟩
    objectClass := hm.objectClass.mono hle
    heap := hm.heap.mono hle
    lastMatch := hm.lastMatch.mono hle
    users := hm.users
    groups := hm.groups }

inductive Outcomes {α β : Type} (ρ : Renaming) (Q : Renaming → α → β → Prop) :
    EStateM.Result Fault Machine α → EStateM.Result Fault Machine β → Prop
  | ok {σ : Renaming} {a : α} {b : β} {m m' : Machine} (le : ρ ≤ σ) (machines : σ.Machines m m')
    (answers : Q σ a b) : Outcomes ρ Q (.ok a m) (.ok b m')
  | error {σ : Renaming} {e : Fault} {m m' : Machine} (le : ρ ≤ σ) (machines : σ.Machines m m') :
    Outcomes ρ Q (.error e m) (.error e m')

def Agree {α β : Type} (ρ : Renaming) (Q : Renaming → α → β → Prop) (x : Eval α) (y : Eval β) :
    Prop :=
  ∀ m m', ρ.Machines m m' → ρ.Outcomes Q (x m) (y m')

abbrev AgreeStill {α β : Type} (ρ : Renaming) (P : α → β → Prop) (x : Eval α) (y : Eval β) : Prop :=
  ρ.Agree (fun σ a b => σ = ρ ∧ P a b) x y

abbrev AgreeEq {α : Type} (ρ : Renaming) (x y : Eval α) : Prop := ρ.Agree (fun _ => Eq) x y

section Rules

variable {α β γ δ : Type} {P Q : Renaming → α → β → Prop} {P' : α → β → Prop}
  {R : Renaming → γ → δ → Prop} {x : Eval α} {y : Eval β} {f : α → Eval γ} {g : β → Eval δ} {a : α}
  {b : β}

theorem Outcomes.of_le {r : EStateM.Result Fault Machine α} {r' : EStateM.Result Fault Machine β}
    (hr : σ.Outcomes Q r r') (h : ρ ≤ σ) : ρ.Outcomes Q r r' := by
  cases hr with
  | ok le machines answers => exact .ok (h.trans le) machines answers
  | error le machines => exact .error (h.trans le) machines

theorem agree_pure (h : Q ρ a b) : ρ.Agree Q (pure a) (pure b) := by
  intro m m' hm
  exact .ok le_rfl hm h

theorem agree_throw (e : Fault) : ρ.Agree Q (throw e) (throw e) := by
  intro m m' hm
  exact .error le_rfl hm

theorem Agree.imp (hx : ρ.Agree P x y) (h : ∀ σ a b, ρ ≤ σ → P σ a b → Q σ a b) :
    ρ.Agree Q x y := by
  intro m m' hm
  have hxy := hx m m' hm
  generalize x m = r at hxy ⊢
  generalize y m' = r' at hxy ⊢
  cases hxy with
  | ok le machines answers => exact .ok le machines (h _ _ _ le answers)
  | error le machines => exact .error le machines

theorem Agree.bind (hx : ρ.Agree P x y) (hf : ∀ σ a b, ρ ≤ σ → P σ a b → σ.Agree R (f a) (g b)) :
    ρ.Agree R (x >>= f) (y >>= g) := by
  intro m m' hm
  have hxy := hx m m' hm
  change ρ.Outcomes R (EStateM.bind x f m) (EStateM.bind y g m')
  unfold EStateM.bind
  generalize x m = r at hxy ⊢
  generalize y m' = r' at hxy ⊢
  cases hxy with
  -- what follows goes on under the renaming that the first part has left
  | ok le machines answers => exact (hf _ _ _ le answers _ _ machines).of_le le
  | error le machines => exact .error le machines

theorem Agree.bind_eq {x y : Eval α} {g : α → Eval δ} (hx : ρ.AgreeEq x y)
    (hf : ∀ σ a, ρ ≤ σ → σ.Agree R (f a) (g a)) : ρ.Agree R (x >>= f) (y >>= g) := by
  refine hx.bind ?_
  rintro σ a _ hle rfl
  exact hf σ a hle

theorem AgreeStill.agree (hx : ρ.AgreeStill (Q ρ) x y) : ρ.Agree Q x y := by
  refine hx.imp ?_
  rintro _ a b - ⟨rfl, h⟩
  exact h

theorem AgreeStill.bind (hx : ρ.AgreeStill P' x y) (hf : ∀ a b, P' a b → ρ.Agree R (f a) (g b)) :
    ρ.Agree R (x >>= f) (y >>= g) := by
  refine Agree.bind hx ?_
  rintro _ a b - ⟨rfl, h⟩
  exact hf a b h

theorem AgreeStill.bind_eq {x y : Eval α} {g : α → Eval δ} (hx : ρ.AgreeStill Eq x y)
    (hf : ∀ a, ρ.Agree R (f a) (g a)) : ρ.Agree R (x >>= f) (y >>= g) := by
  refine hx.bind ?_
  rintro a _ rfl
  exact hf a

theorem agreeStill_pure (h : P' a b) : ρ.AgreeStill P' (pure a) (pure b) := agree_pure ⟨rfl, h⟩

theorem agree_fail {e e' : RunError} (h : e = e') : ρ.Agree Q (fail e) (fail e') := by
  rw [h]
  exact agree_throw _

theorem agreeStill_orPanic {a : Option α} {b : Option β} (h : Option.Rel P' a b) :
    ρ.AgreeStill P' (orPanic a) (orPanic b) := by
  cases h with
  | some h => exact agreeStill_pure h
  | none => exact agree_throw _

theorem agreeStill_orPanic_eq (a : Option α) : ρ.AgreeStill Eq (orPanic a) (orPanic a) := by
  cases a with
  | some a => exact agreeStill_pure rfl
  | none => exact agree_throw _

theorem agreeStill_orEndless {a : Option α} {b : Option β} (h : Option.Rel P' a b) :
    ρ.AgreeStill P' (orEndless a) (orEndless b) := by
  cases h with
  | some h => exact agreeStill_pure h
  | none => exact agree_throw _

theorem agreeStill_orEndless_eq {a b : Option α} (h : a = b) :
    ρ.AgreeStill Eq (orEndless a) (orEndless b) := by
  subst h
  cases a with
  | some a => exact agreeStill_pure rfl
  | none => exact agree_throw _

theorem agreeStill_ofExcept (a : Except RunError α) :
    ρ.AgreeStill Eq (ofExcept a) (ofExcept a) := by
  cases a with
  | ok a => exact agreeStill_pure rfl
  | error e => exact agree_fail rfl

theorem agreeStill_get : ρ.AgreeStill ρ.Machines get get := by
  intro m m' hm
  exact .ok le_rfl hm ⟨rfl, hm⟩

theorem agreeStill_heap : ρ.AgreeStill ρ.Heaps heap heap :=
  agreeStill_get.bind fun _ _ hm => agreeStill_pure hm.heap

theorem agreeStill_modify {g g' : Machine → Machine}
    (h : ∀ m m', ρ.Machines m m' → ρ.Machines (g m) (g' m')) :
    ρ.AgreeStill Eq (modify g : Eval Unit) (modify g') := by
  intro m m' hm
  exact .ok le_rfl (h m m' hm) ⟨rfl, rfl⟩

theorem agreeStill_onHeap {g : Heap → α × Heap} {g' : Heap → β × Heap}
    (h : ∀ h h', ρ.Heaps h h' → P' (g h).1 (g' h').1 ∧ ρ.Heaps (g h).2 (g' h').2) :
    ρ.AgreeStill P' (onHeap g) (onHeap g') := by
  intro m m' hm
  obtain ⟨hanswers, hheap⟩ := h _ _ hm.heap
  exact .ok le_rfl { hm with heap := hheap } ⟨rfl, hanswers⟩

theorem agreeStill_setHeap {g g' : Heap → Heap} (h : ∀ h h', ρ.Heaps h h' → ρ.Heaps (g h) (g' h')) :
    ρ.AgreeStill Eq (setHeap g) (setHeap g') :=
  agreeStill_modify fun _ _ hm => { hm with heap := h _ _ hm.heap }

theorem agree_intern (name : String) :
    ρ.Agree Renaming.Pairs (Eval.intern name) (Eval.intern name) := by
  intro m m' hm
  obtain ⟨hpairs, hmachines⟩ := hm.intern name
  exact .ok (ρ.le_intern name) hmachines hpairs

end Rules

section Steps

variable {v v' : Value} {args args' : Args} {Q : Renaming → Value → Value → Prop}

theorem agreeStill_setLastMatch (hv : ρ.Values v v') :
    ρ.AgreeStill Eq (setLastMatch v) (setLastMatch v') :=
  agreeStill_modify fun _ _ hm => { hm with lastMatch := hv }

theorem agreeStill_newString {text text' : String} (h : text = text') :
    ρ.AgreeStill ρ.Values (newString text) (newString text') := by
  subst h
  refine (agreeStill_onHeap fun _ _ hh => hh.newString text).bind_eq fun s => ?_
  exact agreeStill_pure (.string s)

theorem agreeStill_optionalString (text : Option String) :
    ρ.AgreeStill ρ.Values (optionalString text) (optionalString text) := by
  cases text with
  | some text => exact agreeStill_newString rfl
  | none => exact agreeStill_pure .nil

theorem agreeStill_newArray {as as' : List Value} (has : ρ.Items as as') :
    ρ.AgreeStill ρ.Values (newArray as) (newArray as') := by
  refine (agreeStill_onHeap fun _ _ hh => hh.newArray has).bind_eq fun r => ?_
  exact agreeStill_pure (.array r)

theorem agreeStill_fresh : ρ.AgreeStill Eq (onHeap (·.fresh)) (onHeap (·.fresh)) :=
  agreeStill_onHeap fun _ _ hh => hh.fresh

theorem agreeStill_check (hargs : ρ.Arguments args args') (expected : Arity) :
    ρ.AgreeStill Eq (check args expected) (check args' expected) := by
  have hsize : args.size = args'.size := hargs.items.length_eq
  have hcheck : args.check expected = args'.check expected := by rw [Args.check, Args.check, hsize]
  rw [check, check, hcheck]
  exact agreeStill_ofExcept _

theorem agreeStill_arg (hargs : ρ.Arguments args args') (i : ℕ) :
    ρ.AgreeStill ρ.Values (arg args i) (arg args' i) :=
  agreeStill_orPanic (hargs.get? i)

theorem agreeStill_shift (hargs : ρ.Arguments args args') :
    ρ.AgreeStill ρ.Arguments (shift args) (shift args') := by
  refine agreeStill_orPanic ?_
  obtain ⟨items, keywords⟩ := args
  obtain ⟨items', keywords'⟩ := args'
  obtain ⟨hitems, hkeywords⟩ := hargs
  rcases hitems with _ | ⟨_, _ | ⟨hv, hrest⟩⟩
  · exact .none
  · exact .some ⟨.nil, rfl⟩
  · exact .some ⟨.cons hv hrest, hkeywords⟩

theorem agreeStill_sum (a b : ℤ) : ρ.AgreeStill Eq (sum a b) (sum a b) := by
  unfold sum
  split
  · exact agreeStill_pure rfl
  · exact agree_throw _

theorem agree_wrongArgument {α β : Type} {Q : Renaming → α → β → Prop} (hv : ρ.Values v v')
    (expected : String) : ρ.Agree Q (wrongArgument v expected) (wrongArgument v' expected) :=
  agree_fail (by rw [hv.className_eq])

theorem agree_bool {b b' : Bool} (h : b = b') :
    ρ.Agree Renaming.Values (pure (.bool b)) (pure (.bool b')) :=
  agree_pure (h ▸ .bool b)

theorem agree_count {n n' : ℕ} (h : n = n') :
    ρ.Agree Renaming.Values (pure (count n)) (pure (count n')) :=
  agree_pure (h ▸ .integer _)

theorem values_ordering (o : Ordering) : ρ.Values (ordering o) (ordering o) := by
  cases o <;> exact .integer _

theorem agree_classOf (hv : ρ.Values v v') : ρ.Agree Renaming.Pairs (classOf v) (classOf v') := by
  cases hv with
  | object ref hcls => exact agree_pure hcls
  | _ => exact agree_intern _

theorem agree_findMethod (hv : ρ.Values v v') {s s' : Symbol} (hs : ρ.Pairs s s') :
    ρ.AgreeEq (findMethod v s) (findMethod v' s') := by
  refine (agree_classOf hv).bind fun σ c c' hle hc => AgreeStill.agree ?_
  refine agreeStill_get.bind fun m m' hm => agreeStill_pure ?_
  have hs := hs.mono hle
  rw [hm.get?_eq hc hs, hm.get?_eq hm.objectClass hs]

theorem Heaps.hasField_eq {h h' : Heap} (hh : ρ.Heaps h h') (hv : ρ.Values v v') {s s' : Symbol}
    (hs : ρ.Pairs s s') : hasField h v s = hasField h' v' s' := by
  cases hv with
  | object ref _ => exact isSome_eq_of_rel (hh.field? ref hs)
  | _ => rfl

theorem agree_respondsTo (hv : ρ.Values v v') {s s' : Symbol} (hs : ρ.Pairs s s') :
    ρ.AgreeEq (respondsTo v s) (respondsTo v' s') := by
  refine (agree_findMethod hv hs).bind_eq fun σ found hle => ?_
  cases found with
  | some _ => exact agree_pure rfl
  | none =>
    exact agreeStill_heap.bind fun h h' hh =>
      agree_pure (hh.hasField_eq (hv.mono hle) (hs.mono hle))

theorem agree_respondsToName (hv : ρ.Values v v') (name : String) :
    ρ.AgreeEq (respondsToName v name) (respondsToName v' name) :=
  (agree_intern name).bind fun _ _ _ hle hs => agree_respondsTo (hv.mono hle) hs

end Steps

end Renaming

open Renaming

/-- Sends of what stands for each other agree, under every renaming. -/
def Sender.Uniform (send : Sender) : Prop :=
  ∀ {ρ : Renaming} {v v' : Value} {s s' : Symbol} {args args' : Args}, ρ.Values v v' →
  ρ.Pairs s s' →
    ρ.Arguments args args' → ρ.Agree Renaming.Values (send v s args) (send v' s' args')

namespace Renaming

variable {ρ : Renaming} {send : Sender} {v v' : Value} {args args' : Args}

theorem arguments_empty : ρ.Arguments .empty .empty := ⟨.nil, rfl⟩

theorem agree_byName (hs : send.Uniform) (hv : ρ.Values v v') (name : String)
    (hargs : ρ.Arguments args args') :
    ρ.Agree Renaming.Values (send.byName v name args) (send.byName v' name args') :=
  (agree_intern name).bind fun _ _ _ hle hname => hs (hv.mono hle) hname (hargs.mono hle)

theorem agreeStill_wrap (hv : ρ.Values v v') : ρ.AgreeStill Eq (wrap v) (wrap v') :=
  agreeStill_onHeap fun _ _ hh => hh.newArray (.cons hv .nil)

theorem agree_badConversion {α β : Type} {Q : Renaming → α → β → Prop} (hv : ρ.Values v v')
    {answer answer' : Value} (ha : ρ.Values answer answer') (target method : String) :
    ρ.Agree Q (badConversion v answer target method) (badConversion v' answer' target method) :=
  agree_fail (by rw [hv.className_eq, ha.className_eq])

theorem Values.implicitName_eq (hv : ρ.Values v v') : implicitName v = implicitName v' := by
  cases hv with
  | object ref hcls => exact hcls.name_eq
  | _ => rfl

theorem agree_noConversion {α β : Type} {Q : Renaming → α → β → Prop} (hv : ρ.Values v v')
    (target : String) : ρ.Agree Q (fail (.noConversion (implicitName v) target))
      (fail (.noConversion (implicitName v') target)) :=
  agree_fail (by rw [hv.implicitName_eq])

theorem agree_asked {α β : Type} {Q : Renaming → α → β → Prop} {f : Value → Eval α}
    {g : Value → Eval β} {x : Eval α} {y : Eval β} (hs : send.Uniform) (hv : ρ.Values v v')
    (name : String) (hf : ∀ σ a b, ρ ≤ σ → σ.Values a b → σ.Agree Q (f a) (g b))
    (hxy : ∀ σ, ρ ≤ σ → σ.Agree Q x y) :
    ρ.Agree Q (do if ← respondsToName v name then f (← send.byName v name .empty) else x)
      (do if ← respondsToName v' name then g (← send.byName v' name .empty) else y) := by
  refine (agree_respondsToName hv name).bind_eq fun σ answers hle => ?_
  cases answers with
  | false => exact hxy σ hle
  | true =>
    refine (agree_byName hs (hv.mono hle) name arguments_empty).bind fun τ a b hle' hab => ?_
    exact hf τ a b (hle.trans hle') hab

theorem agree_toAry (hs : send.Uniform) (hv : ρ.Values v v') (strict : Bool) :
    ρ.AgreeEq (toAry send v strict) (toAry send v' strict) := by
  have hwrap : ∀ σ, ρ ≤ σ → σ.AgreeEq (wrap v) (wrap v') :=
    fun σ hle => (agreeStill_wrap (hv.mono hle)).agree
  have hself := hv
  cases hv with
  | array r => exact agree_pure rfl
  | _ =>
    refine agree_asked hs hself "to_ary" (fun σ a b hle hab => ?_) hwrap
    have hanswer := hab
    cases hab with
    | array r => exact agree_pure rfl
    | nil => exact hwrap σ hle
    | _ =>
      cases strict with
      | true => exact agree_badConversion (hself.mono hle) hanswer _ _
      | false => exact hwrap σ hle

theorem agree_toStr (hs : send.Uniform) (hv : ρ.Values v v') :
    ρ.AgreeEq (toStr send v) (toStr send v') := by
  have hself := hv
  cases hv with
  | string s => exact agree_pure rfl
  | _ =>
    refine agree_asked hs hself "to_str" (fun σ a b hle hab => ?_)
      fun σ hle => agree_noConversion (hself.mono hle) _
    have hanswer := hab
    cases hab with
    | string s => exact agree_pure rfl
    | _ => exact agree_badConversion (hself.mono hle) hanswer _ _

theorem agree_toInt (hs : send.Uniform) (hv : ρ.Values v v') :
    ρ.AgreeEq (toInt send v) (toInt send v') := by
  have hself := hv
  cases hv with
  | integer n => exact agree_pure rfl
  | nil => exact agree_fail rfl
  | _ =>
    refine agree_asked hs hself "to_int" (fun σ a b hle hab => ?_)
      fun σ hle => agree_noConversion (hself.mono hle) _
    have hanswer := hab
    cases hab with
    | integer n => exact agree_pure rfl
    | _ => exact agree_badConversion (hself.mono hle) hanswer _ _

theorem Items.padded? {as as' : List Value} (has : ρ.Items as as') (min : ℕ) :
    Option.Rel ρ.Items (Args.padded? min as) (Args.padded? min as') := by
  unfold Args.padded?
  rw [has.length_eq]
  split
  · exact .none
  · refine .some (List.rel_append has ?_)
    exact List.forall₂_same.mpr fun v hv => List.eq_of_mem_replicate hv ▸ .nil

theorem Items.fitted? {as as' : List Value} (has : ρ.Items as as') (min : ℕ) (max : Option ℕ) :
    Option.Rel ρ.Items (Args.fitted? min max as) (Args.fitted? min max as') := by
  cases max with
  | some k => exact Items.padded? (List.forall₂_take k has) min
  | none => exact Items.padded? has min

theorem Items.spreadOut? {as as' : List Value} (has : ρ.Items as as') (min : ℕ) (max : Option ℕ) :
    Option.Rel ρ.Items (Args.spreadOut? min max as) (Args.spreadOut? min max as') := by
  cases max with
  | none => exact Items.padded? has min
  | some k =>
    unfold Args.spreadOut?
    rw [has.length_eq]
    dsimp only
    split
    · exact .some (List.forall₂_take k has)
    · exact Items.padded? has min

theorem agree_bindBlock (hs : send.Uniform) (hargs : ρ.Arguments args args') (min : ℕ)
    (max : Option ℕ) (spread : Bool) :
    ρ.Agree Renaming.Items (bindBlock send args min max spread)
      (bindBlock send args' min max spread) := by
  have hfitted : ρ.Agree Renaming.Items (orPanic (Args.fitted? min max args.items))
      (orPanic (Args.fitted? min max args'.items)) :=
    (agreeStill_orPanic (Items.fitted? hargs.items min max)).agree
  obtain ⟨items, keywords⟩ := args
  obtain ⟨items', keywords'⟩ := args'
  obtain ⟨hitems, -⟩ := hargs
  unfold bindBlock
  cases spread with
  | false => exact hfitted
  | true =>
    rcases hitems with _ | ⟨hv, _ | ⟨hw, hrest⟩⟩
    · exact hfitted
    · refine (agree_toAry hs hv true).bind_eq fun σ ref _ => AgreeStill.agree ?_
      refine agreeStill_heap.bind fun h h' hh => agreeStill_orPanic ?_
      exact Items.spreadOut? (hh.array ref) min max
    · exact hfitted

end Renaming

end LateBinding
