import LateBinding.Method.System
import LateBinding.Proofs.Machine.Contract

/-! # Methods that ask the operating system

Its records come as new objects, and only the places in its lists are kept.
-/

namespace LateBinding

open Eval Contract

variable {C : Contract} [C.Lawful] {send : Sender} {self : Value} {args : Args}

namespace SystemMethod

theorem meets_newObject (cls : Symbol) {fields : List (Symbol × Value)}
    (hv : ∀ e ∈ fields, C.value e.2) : (newObject cls fields).Meets C C.value := by
  refine (meets_onHeap (Q := fun _ => True) (fun h => h.grows_newObject cls fields) (fun _ => rfl)
    (fun _ hh => hh.newObject cls hv) fun _ => trivial).bind fun o _ => ?_
  exact .pure (Lawful.made (v := .object o) trivial)

theorem meets_internFields {fields : List (String × Value)} (hv : ∀ e ∈ fields, C.value e.2) :
    (internFields fields).Meets C fun fields => ∀ e ∈ fields, C.value e.2 := by
  induction fields with
  | nil => exact .pure (by simp)
  | cons field rest ih =>
    refine (meets_intern field.1).bind fun s _ => ?_
    refine (ih fun e he => hv e (List.mem_cons_of_mem _ he)).bind fun fields hfields => .pure ?_
    rintro e (_ | ⟨_, he⟩)
    · exact hv field List.mem_cons_self
    · exact hfields e he

theorem meets_userValue (u : User) : (userValue u).Meets C C.value := by
  have hcount : ∀ n, C.value (count n) := fun n => Lawful.made trivial
  unfold userValue
  refine (meets_newString u.name).bind fun name hname => ?_
  refine (meets_newString u.password).bind fun password hpassword => ?_
  refine (meets_newString u.comment).bind fun comment hcomment => ?_
  refine (meets_newString u.home).bind fun home hhome => ?_
  refine (meets_newString u.shell).bind fun shell hshell => (meets_intern _).bind fun cls _ => ?_
  refine (meets_internFields ?_).bind fun fields hfields => meets_newObject cls hfields
  simp [hname, hpassword, hcomment, hhome, hshell, hcount]

theorem meets_newStrings (texts : List String) :
    (newStrings texts).Meets C fun items => ∀ v ∈ items, C.value v := by
  induction texts with
  | nil => exact .pure (by simp)
  | cons text rest ih =>
    refine (meets_newString text).bind fun v hv => ih.bind fun items hitems => .pure ?_
    simpa using ⟨hv, hitems⟩

theorem meets_groupValue (g : Group) : (groupValue g).Meets C C.value := by
  have hcount : ∀ n, C.value (count n) := fun n => Lawful.made trivial
  unfold groupValue
  refine (meets_newStrings g.members).bind fun items hitems => ?_
  refine (meets_newArray hitems).bind fun members hmembers => ?_
  refine (meets_newString g.name).bind fun name hname => ?_
  refine (meets_newString g.password).bind fun password hpassword =>
    (meets_intern _).bind fun cls _ => ?_
  refine (meets_internFields ?_).bind fun fields hfields => meets_newObject cls hfields
  simp [hname, hpassword, hmembers, hcount]

theorem meets_found {α : Type} (call : ℕ → Accounts.Reply α) :
    (found call).Meets C fun _ => True := by
  unfold found
  split
  · exact .pure trivial
  · exact meets_fail _

theorem meets_nameOf (v : Value) : (nameOf v).Meets C fun _ => True := by
  unfold nameOf
  split
  · split
    · exact meets_fail _
    · exact .pure trivial
  · exact meets_wrongArgument _ _

theorem meets_idOf (hs : C.Sends send) (current : ℕ) {v : Option Value} (hv : ∀ w ∈ v, C.value w) :
    (idOf send current v).Meets C fun _ => True := by
  unfold idOf
  cases v with
  | none => exact .pure trivial
  | some v =>
    refine (meets_toInt hs (hv v rfl)).bind fun id _ => ?_
    dsimp only
    split
    · exact .pure trivial
    · exact meets_fail _

theorem meets_limitOf (system : OperatingSystem) (name : ℤ) :
    (limitOf system name).Meets C C.value := by
  unfold limitOf
  split
  · split
    · exact .pure (Lawful.made trivial)
    · exact .pure (Lawful.made trivial)
    · exact meets_fail _
  · exact meets_fail _

theorem meets_nextEntry {α : Type} {entries : List α} {cursor : Machine → ℕ}
    {move : Machine → ℕ → Machine} {value : α → Eval Value}
    (hm : ∀ {m} (i : ℕ), C.machine m → C.step m (move m i)) (hv : ∀ a, (value a).Meets C C.value) :
    (nextEntry entries cursor move value).Meets C C.value := by
  unfold nextEntry
  refine meets_get.bind fun m _ => ?_
  dsimp only
  split
  · exact Meets.bind (P := fun _ => True) ⟨fun m' hm' => ⟨hm _ hm', trivial⟩⟩ fun _ _ => hv _
  · exact .pure (Lawful.made trivial)

theorem meets_rewind {move : Machine → ℕ → Machine}
    (hm : ∀ {m} (i : ℕ), C.machine m → C.step m (move m i)) : (rewind move).Meets C C.value :=
  Meets.bind (P := fun _ => True) ⟨fun _ hm' => ⟨hm 0 hm', trivial⟩⟩ fun _ _ =>
    .pure (Lawful.made trivial)

theorem meets_run (hs : C.Sends send) (system : OperatingSystem) (m : SystemMethod)
    (hargs : ∀ v ∈ args.items, C.value v) : (m.run system send args).Meets C C.value := by
  unfold run
  refine (meets_check args m.arity).bind fun _ hsize => ?_
  cases m with
  | nextUser => exact meets_nextEntry Lawful.users meets_userValue
  | nextGroup => exact meets_nextEntry Lawful.groups meets_groupValue
  | rewindUsers => exact meets_rewind Lawful.users
  | closeUsers => exact meets_rewind Lawful.users
  | rewindGroups => exact meets_rewind Lawful.groups
  | closeGroups => exact meets_rewind Lawful.groups
  | login => exact meets_optionalString _
  | userNamed =>
    refine (meets_arg hsize).bind fun v _ => (meets_nameOf v).bind fun name _ => ?_
    refine (meets_found _).bind fun entry _ => ?_
    rcases entry with _ | u
    · exact meets_fail _
    · exact meets_userValue u
  | groupNamed =>
    refine (meets_arg hsize).bind fun v _ => (meets_nameOf v).bind fun name _ => ?_
    refine (meets_found _).bind fun entry _ => ?_
    rcases entry with _ | g
    · exact meets_fail _
    · exact meets_groupValue g
  | userWithId =>
    refine (meets_idOf hs _ fun v hv => hargs v (List.mem_of_getElem? hv)).bind fun id _ => ?_
    refine (meets_found _).bind fun entry _ => ?_
    rcases entry with _ | u
    · exact meets_fail _
    · exact meets_userValue u
  | groupWithId =>
    refine (meets_idOf hs _ fun v hv => hargs v (List.mem_of_getElem? hv)).bind fun id _ => ?_
    refine (meets_found _).bind fun entry _ => ?_
    rcases entry with _ | g
    · exact meets_fail _
    · exact meets_groupValue g
  | limit =>
    refine (meets_arg hsize).bind fun v hv => (meets_toInt hs (hargs v hv)).bind fun name _ => ?_
    exact meets_limitOf system _

end SystemMethod

end LateBinding
