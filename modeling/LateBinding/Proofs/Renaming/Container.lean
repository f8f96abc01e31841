import LateBinding.Method.Array
import LateBinding.Method.Hash
import LateBinding.Method.Proc
import LateBinding.Method.System
import LateBinding.Proofs.Renaming.Machine

/-! # Methods of containers, procs and the system up to a renaming of symbols

Keys of hashes and fields of objects may be symbols: they are found in the same places on both
sides. A call of a proc agrees when the code of its block does.
-/

namespace LateBinding

open Eval Renaming

variable {ρ : Renaming} {send : Sender} {host : Host} {self self' v v' : Value} {args args' : Args}

namespace ArrayMethod

theorem agreeStill_receiver (hv : ρ.Values v v') : ρ.AgreeStill Eq (receiver v) (receiver v') := by
  have hself := hv
  cases hv with
  | array r => exact agreeStill_pure rfl
  | _ => exact agree_wrongArgument hself _

theorem agreeStill_place (i : Int64) {size size' : ℕ} (h : size = size') :
    ρ.AgreeStill Eq (place i size) (place i size') := by
  subst h
  unfold place
  split
  · exact (agreeStill_sum _ _).bind_eq fun _ => agreeStill_pure rfl
  · exact agreeStill_pure rfl

theorem agreeStill_itemAt {items items' : List Value} (hitems : ρ.Items items items')
    (i : Option ℕ) : ρ.AgreeStill ρ.Values (itemAt items i) (itemAt items' i) := by
  cases i with
  | some i => exact agreeStill_orPanic (getElem?_of_forall₂ hitems i)
  | none => exact agreeStill_pure .nil

theorem agree_run (hs : send.Uniform) (m : ArrayMethod) (hself : ρ.Values self self')
    (hargs : ρ.Arguments args args') :
    ρ.Agree Renaming.Values (m.run send self args) (m.run send self' args') := by
  unfold run
  extract_lets body body'
  have hbody : ∀ u, ρ.Agree Renaming.Values (body u) (body' u) := by
    intro u
    refine (agreeStill_receiver hself).bind_eq fun r => ?_
    cases m with
    | toAry => exact agree_pure hself
    | size => exact agreeStill_heap.bind fun h h' hh => agree_count (hh.array r).length_eq
    | first =>
      refine agreeStill_heap.bind fun h h' hh => agree_pure ?_
      rw [List.head?_eq_getElem?, List.head?_eq_getElem?]
      exact getD_of_rel (getElem?_of_forall₂ (hh.array r) 0) .nil
    | last =>
      refine agreeStill_heap.bind fun h h' hh => agree_pure ?_
      rw [List.getLast?_eq_getElem?, List.getLast?_eq_getElem?, (hh.array r).length_eq]
      exact getD_of_rel (getElem?_of_forall₂ (hh.array r) _) .nil
    | ref =>
      refine (agreeStill_arg hargs 0).bind fun v v' hv =>
        (agree_toInt hs hv).bind_eq fun σ i _ => ?_
      refine agreeStill_heap.bind fun h h' hh => ?_
      refine (agreeStill_place i (hh.array r).length_eq).bind_eq fun n => ?_
      exact (agreeStill_itemAt (hh.array r) n).agree
    | dup => exact agreeStill_heap.bind fun h h' hh => (agreeStill_newArray (hh.array r)).agree
    | push =>
      refine (agreeStill_setHeap fun h h' hh => ?_).bind_eq fun _ => agree_pure hself
      exact hh.setArray r (List.rel_append (hh.array r) hargs.items)
    | equal =>
      refine agreeStill_heap.bind fun h h' hh => (agreeStill_arg hargs 0).bind fun v v' hv => ?_
      exact (agreeStill_orEndless_eq (hh.eql?_eq none hself hv)).bind_eq fun b => agree_bool rfl
  split
  · exact (agreeStill_check hargs _).bind_eq fun _ => hbody ()
  · exact hbody ()

end ArrayMethod

namespace HashMethod

theorem agreeStill_receiver (hv : ρ.Values v v') : ρ.AgreeStill Eq (receiver v) (receiver v') := by
  have hself := hv
  cases hv with
  | hash r => exact agreeStill_pure rfl
  | _ => exact agree_wrongArgument hself _

theorem agree_run (m : HashMethod) (hself : ρ.Values self self') (hargs : ρ.Arguments args args') :
    ρ.Agree Renaming.Values (m.run self args) (m.run self' args') := by
  unfold run
  refine (agreeStill_check hargs m.arity).bind_eq fun _ =>
    (agreeStill_receiver hself).bind_eq fun r => ?_
  cases m with
  | ref =>
    refine agreeStill_heap.bind fun h h' hh => (agreeStill_arg hargs 0).bind fun v v' hv => ?_
    refine (agreeStill_orEndless (hh.hashGet? r hv)).bind fun found found' hfound => ?_
    exact agree_pure (getD_of_rel hfound .nil)
  | set =>
    refine (agreeStill_arg hargs 0).bind fun v v' hv =>
      (agreeStill_arg hargs 1).bind fun w w' hw => ?_
    refine agreeStill_heap.bind fun h h' hh => ?_
    refine (agreeStill_orEndless (hh.stored? r hv hw)).bind fun es es' hes => ?_
    exact (agreeStill_setHeap fun h h' hh => hh.setHash r hes).bind_eq fun _ => agree_pure hw
  | hasKey =>
    refine agreeStill_heap.bind fun h h' hh => (agreeStill_arg hargs 0).bind fun v v' hv => ?_
    refine (agreeStill_orEndless (hh.hashGet? r hv)).bind fun found found' hfound => ?_
    exact agree_bool (isSome_eq_of_rel hfound)
  | size => exact agreeStill_heap.bind fun h h' hh => agree_count (hh.hash r).length_eq
  | keys =>
    refine agreeStill_heap.bind fun h h' hh => (agreeStill_newArray ?_).agree
    exact List.rel_map (fun _ _ he => he.1) (hh.hash r)
  | values =>
    refine agreeStill_heap.bind fun h h' hh => (agreeStill_newArray ?_).agree
    exact List.rel_map (fun _ _ he => he.2) (hh.hash r)
  | equal =>
    refine agreeStill_heap.bind fun h h' hh => (agreeStill_arg hargs 0).bind fun v v' hv => ?_
    exact (agreeStill_orEndless_eq (hh.eql?_eq none hself hv)).bind_eq fun b => agree_bool rfl

end HashMethod

namespace ProcMethod

theorem agreeStill_receiver (hv : ρ.Values v v') :
    ρ.AgreeStill (fun p p' => ρ.Values (.proc p) (.proc p')) (receiver v) (receiver v') := by
  have hself := hv
  cases hv with
  | proc id bodies isLambda => exact agreeStill_pure hself
  | _ => exact agree_wrongArgument hself _

theorem agree_parameters (hs : send.Uniform) (isLambda : Bool) (b : Block)
    (hargs : ρ.Arguments args args') :
    ρ.Agree Renaming.Items (parameters send isLambda b args)
      (parameters send isLambda b args') := by
  unfold parameters
  split
  · exact (agreeStill_check hargs _).bind_eq fun _ => agree_pure hargs.items
  · exact agree_bindBlock hs hargs _ _ _

theorem agree_run (m : ProcMethod) (hself : ρ.Values self self') (hargs : ρ.Arguments args args')
    (hcall : ∀ p p', ρ.Values (.proc p) (.proc p') →
      ρ.Agree Renaming.Values (callProc host send p args) (callProc host send p' args')) :
    ρ.Agree Renaming.Values (m.run host send self args) (m.run host send self' args') := by
  unfold run
  extract_lets body body'
  have hbody : ∀ u, ρ.Agree Renaming.Values (body u) (body' u) := by
    intro u
    refine (agreeStill_receiver hself).bind fun p p' hp => ?_
    cases m with
    | call => exact hcall p p' hp
    | arity =>
      have harity : p.arity? = p'.arity? := by
        cases hp with
        | proc id bodies isLambda => cases bodies <;> rfl
      rw [harity]
      exact (agreeStill_orPanic_eq _).bind_eq fun n => agree_pure (.integer n)
    | isLambda => cases hp with | proc id bodies isLambda => exact agree_bool rfl
    | toProc => exact agree_pure hself
  split
  · exact (agreeStill_check hargs _).bind_eq fun _ => hbody ()
  · exact hbody ()

end ProcMethod

namespace SystemMethod

theorem agreeStill_newObject {cls cls' : Symbol} (hcls : ρ.Pairs cls cls')
    {fs fs' : List (Symbol × Value)} (hfs : Entries.Related ρ.Pairs ρ.Values fs fs') :
    ρ.AgreeStill ρ.Values (newObject cls fs) (newObject cls' fs') := by
  have hnew : ρ.AgreeStill (fun o o' => ρ.Values (.object o) (.object o'))
      (onHeap (·.newObject cls fs))
      (onHeap (·.newObject cls' fs')) := agreeStill_onHeap fun _ _ hh => hh.newObject hcls hfs
  exact hnew.bind fun _ _ ho => agreeStill_pure ho

theorem agree_internFields {fs fs' : List (String × Value)}
    (hfs : Entries.Related Eq ρ.Values fs fs') :
    ρ.Agree (fun σ => Entries.Related σ.Pairs σ.Values) (internFields fs) (internFields fs') := by
  induction fs generalizing ρ fs' with
  | nil =>
    cases hfs
    exact agree_pure .nil
  | cons field rest ih =>
    obtain - | ⟨⟨hname, hv⟩, hrest⟩ := hfs
    unfold internFields
    rw [hname]
    refine (agree_intern _).bind fun σ s s' hle hs => ?_
    have hrest : Entries.Related Eq σ.Values rest _ := hrest.imp fun _ _ he => ⟨he.1, he.2.mono hle⟩
    refine (ih hrest).bind fun τ gs gs' hle' hgs => agree_pure ?_
    exact .cons ⟨hs.mono hle', hv.mono (hle.trans hle')⟩ hgs

theorem agree_userValue (u : User) : ρ.Agree Renaming.Values (userValue u) (userValue u) := by
  unfold userValue
  refine (agreeStill_newString rfl).bind fun name name' hname => ?_
  refine (agreeStill_newString rfl).bind fun password password' hpassword => ?_
  refine (agreeStill_newString rfl).bind fun comment comment' hcomment => ?_
  refine (agreeStill_newString rfl).bind fun home home' hhome => ?_
  refine (agreeStill_newString rfl).bind fun shell shell' hshell => ?_
  refine (agree_intern _).bind fun σ cls cls' hle hcls => ?_
  refine (agree_internFields ?_).bind fun τ fs fs' hle' hfs =>
    (agreeStill_newObject (hcls.mono hle') hfs).agree
  exact .cons ⟨rfl, hname.mono hle⟩ (.cons ⟨rfl, hpassword.mono hle⟩ (.cons ⟨rfl, .integer _⟩
    (.cons ⟨rfl, .integer _⟩ (.cons ⟨rfl, hcomment.mono hle⟩ (.cons ⟨rfl, hhome.mono hle⟩
      (.cons ⟨rfl, hshell.mono hle⟩ .nil))))))

theorem agreeStill_newStrings (texts : List String) :
    ρ.AgreeStill ρ.Items (newStrings texts) (newStrings texts) := by
  induction texts with
  | nil => exact agreeStill_pure .nil
  | cons text rest ih =>
    refine (agreeStill_newString rfl).bind fun v v' hv => ih.bind fun items items' hitems => ?_
    exact agreeStill_pure (.cons hv hitems)

theorem agree_groupValue (g : Group) : ρ.Agree Renaming.Values (groupValue g) (groupValue g) := by
  unfold groupValue
  refine (agreeStill_newStrings _).bind fun items items' hitems => ?_
  refine (agreeStill_newArray hitems).bind fun members members' hmembers => ?_
  refine (agreeStill_newString rfl).bind fun name name' hname => ?_
  refine (agreeStill_newString rfl).bind fun password password' hpassword => ?_
  refine (agree_intern _).bind fun σ cls cls' hle hcls => ?_
  refine (agree_internFields ?_).bind fun τ fs fs' hle' hfs =>
    (agreeStill_newObject (hcls.mono hle') hfs).agree
  exact .cons ⟨rfl, hname.mono hle⟩ (.cons ⟨rfl, hpassword.mono hle⟩ (.cons ⟨rfl, .integer _⟩
    (.cons ⟨rfl, hmembers.mono hle⟩ .nil)))

theorem agree_found {α : Type} (call : ℕ → Accounts.Reply α) {f : Option α → Eval Value}
    (hsome : ∀ a, ρ.Agree Renaming.Values (f (some a)) (f (some a)))
    (hnone : ρ.Agree Renaming.Values (f none) (f none)) :
    ρ.Agree Renaming.Values (found call >>= f) (found call >>= f) := by
  have hfound : ρ.AgreeStill Eq (found call) (found call) := by
    unfold found
    split
    · exact agreeStill_pure rfl
    · exact agree_fail rfl
  refine hfound.bind_eq fun entry => ?_
  cases entry with
  | some a => exact hsome a
  | none => exact hnone

theorem agreeStill_nameOf (hv : ρ.Values v v') : ρ.AgreeStill Eq (nameOf v) (nameOf v') := by
  have hself := hv
  cases hv with
  | string s =>
    unfold nameOf
    dsimp only
    split
    · exact agree_fail rfl
    · exact agreeStill_pure rfl
  | _ => exact agree_wrongArgument hself _

theorem agree_idOf (hs : send.Uniform) (current : ℕ) {x x' : Option Value}
    (hx : Option.Rel ρ.Values x x') : ρ.AgreeEq (idOf send current x) (idOf send current x') := by
  cases hx with
  | none => exact agree_pure rfl
  | some hv =>
    refine (agree_toInt hs hv).bind_eq fun σ id _ => ?_
    dsimp only
    split
    · exact agree_pure rfl
    · exact agree_fail rfl

theorem agree_limitOf (system : OperatingSystem) (name : ℤ) :
    ρ.Agree Renaming.Values (limitOf system name) (limitOf system name) := by
  unfold limitOf
  split
  · split
    · exact agree_pure (.integer _)
    · exact agree_pure .nil
    · exact agree_fail rfl
  · exact agree_fail rfl

theorem agree_nextEntry {α : Type} (entries : List α) {cursor : Machine → ℕ}
    {move : Machine → ℕ → Machine} {value : α → Eval Value}
    (hcursor : ∀ {m m'}, ρ.Machines m m' → cursor m = cursor m')
    (hmove : ∀ i m m', ρ.Machines m m' → ρ.Machines (move m i) (move m' i))
    (hv : ∀ a, ρ.Agree Renaming.Values (value a) (value a)) :
    ρ.Agree Renaming.Values (nextEntry entries cursor move value)
      (nextEntry entries cursor move value) := by
  unfold nextEntry
  refine agreeStill_get.bind fun m m' hm => ?_
  dsimp only
  rw [hcursor hm]
  split
  · exact (agreeStill_modify (hmove _)).bind_eq fun _ => hv _
  · exact agree_pure .nil

theorem agree_rewind {move : Machine → ℕ → Machine}
    (hmove : ∀ m m', ρ.Machines m m' → ρ.Machines (move m 0) (move m' 0)) :
    ρ.Agree Renaming.Values (rewind move) (rewind move) :=
  (agreeStill_modify hmove).bind_eq fun _ => agree_pure .nil

theorem machines_moveUsers (i : ℕ) (m m' : Machine) (hm : ρ.Machines m m') :
    ρ.Machines (moveUsers m i) (moveUsers m' i) :=
  { hm with users := rfl }

theorem machines_moveGroups (i : ℕ) (m m' : Machine) (hm : ρ.Machines m m') :
    ρ.Machines (moveGroups m i) (moveGroups m' i) :=
  { hm with groups := rfl }

theorem agree_run (hs : send.Uniform) (system : OperatingSystem) (m : SystemMethod)
    (hargs : ρ.Arguments args args') :
    ρ.Agree Renaming.Values (m.run system send args) (m.run system send args') := by
  unfold run
  refine (agreeStill_check hargs m.arity).bind_eq fun _ => ?_
  cases m with
  | nextUser => exact agree_nextEntry _ (fun hm => hm.users) machines_moveUsers agree_userValue
  | nextGroup => exact agree_nextEntry _ (fun hm => hm.groups) machines_moveGroups agree_groupValue
  | rewindUsers | closeUsers => exact agree_rewind (machines_moveUsers 0)
  | rewindGroups | closeGroups => exact agree_rewind (machines_moveGroups 0)
  | login => exact (agreeStill_optionalString _).agree
  | userNamed =>
    refine (agreeStill_arg hargs 0).bind fun v v' hv =>
      (agreeStill_nameOf hv).bind_eq fun name => ?_
    exact agree_found _ agree_userValue (agree_fail rfl)
  | groupNamed =>
    refine (agreeStill_arg hargs 0).bind fun v v' hv =>
      (agreeStill_nameOf hv).bind_eq fun name => ?_
    exact agree_found _ agree_groupValue (agree_fail rfl)
  | userWithId =>
    refine (agree_idOf hs _ (hargs.get? 0)).bind_eq fun σ id _ => ?_
    exact agree_found _ agree_userValue (agree_fail rfl)
  | groupWithId =>
    refine (agree_idOf hs _ (hargs.get? 0)).bind_eq fun σ id _ => ?_
    exact agree_found _ agree_groupValue (agree_fail rfl)
  | limit =>
    refine (agreeStill_arg hargs 0).bind fun v v' hv =>
      (agree_toInt hs hv).bind_eq fun σ name _ => ?_
    exact agree_limitOf system _

end SystemMethod

end LateBinding
