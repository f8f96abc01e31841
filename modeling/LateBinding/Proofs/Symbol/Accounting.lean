import LateBinding.Proofs.Symbol.Client

/-! # The counts of a table

While tracking is on, interning counts a miss for a name that was new and a hit for one that was
there, and nothing else counts. So the misses of a run are the names that it registered, and hits
and misses together are its internings, in whatever order they came.
-/

namespace LateBinding

namespace SymbolTable

variable {t u v : SymbolTable} {name : String} {names more : List String}

theorem registered_congr (h : t.entries = u.entries) : t.registered = u.registered := by
  simp only [registered, lookup?, h]

theorem registered_intern (t : SymbolTable) (name : String) :
    (t.intern name).2.registered = insert name t.registered := by
  ext other
  rw [Set.mem_insert_iff]
  by_cases h : other = name
  · subst h
    simp [registered, lookup?_intern]
  · simp [registered, lookup?_intern_of_ne h, h]

theorem registered_register (h : t.lookup? name = none) :
    (t.register name).registered = insert name t.registered := by
  have hi : (t.register name).entries = (t.intern name).2.entries := by
    rw [intern, h, entries_countMiss]
  rw [registered_congr hi, registered_intern]

theorem registered_preintern (names : List String) (t : SymbolTable) :
    (t.preintern names).registered = t.registered ∪ {name | name ∈ names} := by
  induction names generalizing t with
  | nil => simp [preintern]
  | cons name names ih =>
    have hstep : (t.preintern [name]).registered = insert name t.registered := by
      simp only [preintern, List.foldl_cons, List.foldl_nil]
      split
      · next h =>
        have hm : name ∈ t.registered := h
        exact (Set.insert_eq_of_mem hm).symm
      · next h => exact registered_register (Option.not_isSome_iff_eq_none.mp h)
    calc (t.preintern (name :: names)).registered
        = ((t.preintern [name]).preintern names).registered := rfl
      _ = insert name t.registered ∪ {other | other ∈ names} := by rw [ih, hstep]
      _ = t.registered ∪ {other | other ∈ name :: names} := by
        ext other
        simp only [Set.mem_union, Set.mem_insert_iff, Set.mem_ofPred_eq, List.mem_cons]
        tauto

theorem counters_preintern (names : List String) (t : SymbolTable) :
    (t.preintern names).tracking = t.tracking ∧ (t.preintern names).hits = t.hits ∧
      (t.preintern names).misses = t.misses := by
  induction names generalizing t with
  | nil => exact ⟨rfl, rfl, rfl⟩
  | cons name names ih =>
    refine (ih _).imp (·.trans ?_) (And.imp (·.trans ?_)
      (·.trans ?_)) <;> dsimp only <;> split <;> rfl

/-- What becomes of a table in which names are interned, whatever is counted. -/
structure Interned (t : SymbolTable) (names : List String) (u : SymbolTable) : Prop where
  hits : t.hits ≤ u.hits
  misses : t.misses ≤ u.misses
  misses_le : u.misses + t.size ≤ t.misses + u.size
  total_le : u.hits + u.misses ≤ t.hits + t.misses + names.length
  registered : u.registered = t.registered ∪ {name | name ∈ names}

structure Counted (t : SymbolTable) (names : List String) (u : SymbolTable) : Prop where
  tracking : u.tracking = true
  misses : u.misses + t.size = t.misses + u.size
  total : u.hits + u.misses = t.hits + t.misses + names.length

structure Uncounted (t u : SymbolTable) : Prop where
  hits : u.hits = t.hits
  misses : u.misses = t.misses

theorem Interned.refl (t : SymbolTable) : t.Interned [] t :=
  ⟨le_rfl, le_rfl, le_rfl, le_rfl, by simp⟩

theorem Interned.trans (h : t.Interned names u) (h' : u.Interned more v) :
    t.Interned (names ++ more) v := by
  have hs := h.misses_le
  have hs' := h'.misses_le
  have ht := h.total_le
  have ht' := h'.total_le
  refine ⟨h.hits.trans h'.hits, h.misses.trans h'.misses, by omega, ?_, ?_⟩
  · rw [List.length_append]
    omega
  · rw [h'.registered, h.registered, Set.union_assoc]
    congr 1
    ext name
    simp

theorem Counted.refl (ht : t.tracking = true) : t.Counted [] t := ⟨ht, rfl, rfl⟩

theorem Counted.trans (h : t.Counted names u) (h' : u.Counted more v) :
    t.Counted (names ++ more) v := by
  have hm := h.misses
  have hm' := h'.misses
  have ht := h.total
  have ht' := h'.total
  refine ⟨h'.tracking, by omega, ?_⟩
  rw [List.length_append]
  omega

theorem tracking_intern (t : SymbolTable) (name : String) :
    (t.intern name).2.tracking = t.tracking := by
  unfold intern
  split
  · exact tracking_countHit t
  · exact tracking_countMiss _

theorem counted_intern (ht : t.tracking = true) (name : String) :
    t.Counted [name] (t.intern name).2 := by
  have htracking := (tracking_intern t name).trans ht
  cases h : t.lookup? name with
  | some s =>
    have hi : (t.intern name).2 = { t with hits := t.hits + 1 } := by
      simp only [intern, h, countHit, ht, if_true]
    refine ⟨htracking, ?_, ?_⟩ <;> rw [hi]
    · rfl
    · simp only [List.length_singleton]
      omega
  | none =>
    have hi : (t.intern name).2 = { t.register name with misses := t.misses + 1 } := by
      simp only [intern, h, countMiss, register, ht, if_true]
    refine ⟨htracking, ?_, ?_⟩ <;> rw [hi]
    · simp only [size, register, List.length_cons]
      omega
    · simp only [register, List.length_singleton]
      omega

theorem uncounted_intern (ht : t.tracking = false) (name : String) :
    t.Uncounted (t.intern name).2 := by
  unfold intern
  split
  · simp only [countHit, ht]
    exact ⟨rfl, rfl⟩
  · simp only [countMiss, register, ht]
    exact ⟨rfl, rfl⟩

theorem size_le_intern (t : SymbolTable) (name : String) : t.size ≤ (t.intern name).2.size :=
  (extends_intern t name).entries.length_le

theorem interned_intern (t : SymbolTable) (name : String) :
    t.Interned [name] (t.intern name).2 := by
  have hr : (t.intern name).2.registered = t.registered ∪ {other | other ∈ [name]} := by
    rw [registered_intern]
    ext other
    simp [or_comm]
  have hs := size_le_intern t name
  cases ht : t.tracking with
  | true =>
    obtain ⟨-, hm, htotal⟩ := counted_intern ht name
    have hh : t.hits ≤ (t.intern name).2.hits := by
      unfold intern
      split
      · simp [countHit, ht]
      · simp [countMiss, register, ht]
    exact ⟨hh, by omega, hm.le, htotal.le, hr⟩
  | false =>
    obtain ⟨hh, hm⟩ := uncounted_intern ht name
    exact ⟨hh.ge, hm.ge, by omega, by omega, hr⟩

end SymbolTable

namespace Registry

open SymbolTable

variable {n : Nat} {t : Fin n}

def Start.names : Start → List String
  | .empty => []
  | .known => knownNames

theorem registered_newTable (tag : Nat) (start : Start) :
    (newTable tag start).registered = {name | name ∈ start.names} := by
  have hempty : (SymbolTable.empty tag).registered = ∅ := by
    ext name
    simp [mem_registered_iff, SymbolTable.empty]
  cases start with
  | empty =>
    rw [newTable, hempty]
    simp [Start.names]
  | known => rw [newTable, known, registered_preintern, hempty, Set.empty_union, Start.names]

theorem counters_newTable (tag : Nat) (start : Start) :
    (newTable tag start).tracking = true ∧ (newTable tag start).hits = 0 ∧
      (newTable tag start).misses = 0 := by
  cases start with
  | empty => exact ⟨rfl, rfl, rfl⟩
  | known => exact counters_preintern knownNames (.empty tag)

/-- The name that an operation interns in a table. Bytes that are no text intern nothing. -/
def Operation.name? (t : Fin n) : Operation n → Option String
  | .intern u name => if u = t then some name else none
  | .internBytes u bytes => if u = t then (Utf8.text? bytes).toOption else none
  | _ => none

def interned (t : Fin n) (ops : List (Operation n)) : List String := ops.filterMap (·.name? t)

inductive Affects (t : Fin n) : Operation n → SymbolTable → SymbolTable → Prop
  | interns {op table name} : op.name? t = some name → Affects t op table (table.intern name).2
  | switches {table} (on : Bool) : Affects t (.setTracking t on) table (table.setTracking on)
  | leaves {op table} : op.name? t = none → Affects t op table table

namespace Affects

variable {op : Operation n} {table after : SymbolTable}

theorem interned (h : Affects t op table after) : table.Interned (interned t [op]) after := by
  cases h with
  | interns hn => simpa [Registry.interned, hn] using interned_intern table _
  | switches on =>
    have hr : (table.setTracking on).registered = table.registered := registered_congr rfl
    exact ⟨le_rfl, le_rfl, le_rfl, le_rfl, by simp [Registry.interned, Operation.name?, hr]⟩
  | leaves hn => simpa [Registry.interned, hn] using Interned.refl table

theorem counted (h : Affects t op table after) (ht : table.tracking = true)
    (hop : op ≠ .setTracking t false) : table.Counted (Registry.interned t [op]) after := by
  cases h with
  | interns hn => simpa [Registry.interned, hn] using counted_intern ht _
  | switches on =>
    cases on with
    | true => exact ⟨rfl, rfl, rfl⟩
    | false => exact absurd rfl hop
  | leaves hn => simpa [Registry.interned, hn] using Counted.refl ht

/-- Nothing is counted while tracking is off, and only internings ever are. -/
theorem uncounted (h : Affects t op table after)
    (hop : table.tracking = false ∨ op.name? t = none) : table.Uncounted after := by
  cases h with
  | interns hn =>
    rcases hop with ht | hop
    · exact uncounted_intern ht _
    · exact absurd (hn.symm.trans hop) (by simp)
  | switches on => exact ⟨rfl, rfl⟩
  | leaves hn => exact ⟨rfl, rfl⟩

end Affects

theorem interned_cons (t : Fin n) (op : Operation n) (ops : List (Operation n)) :
    interned t (op :: ops) = interned t [op] ++ interned t ops :=
  List.filterMap_append (l := [op])

namespace Client

variable {c : Client n}

def stats (c : Client n) (t : Fin n) : InternerStats := (c.table t).stats

@[simp] theorem stats_count : (c.stats t).count = (c.table t).size := rfl

@[simp] theorem stats_hits : (c.stats t).hits = (c.table t).hits := rfl

@[simp] theorem stats_misses : (c.stats t).misses = (c.table t).misses := rfl

theorem affects_intern (hc : c.registry.tables.length = n) (u t : Fin n) {op : Operation n}
    {name : String} (hn : op.name? t = if u = t then some name else none) :
    Affects t op (c.table t) ((c.step (.intern u name)).table t) := by
  have ht : (c.step (.intern u name)).table t =
      if t = u then ((c.table u).intern name).2 else c.table t := table_setTable hc u t _
  rw [ht]
  split
  · next h =>
    subst h
    exact .interns (by rw [hn, if_pos rfl])
  · next h => exact .leaves (by rw [hn, if_neg (Ne.symm h)])

theorem affects_step (hc : c.registry.tables.length = n) (op : Operation n) (t : Fin n) :
    Affects t op (c.table t) ((c.step op).table t) := by
  cases op with
  | intern u name => exact affects_intern hc u t rfl
  | internBytes u bytes =>
    cases hb : Utf8.text? bytes with
    | ok name =>
      rw [step_internBytes hb]
      exact affects_intern hc u t (by simp [Operation.name?, hb, Except.toOption])
    | error valid =>
      rw [step_internBytes_of_error hb]
      exact .leaves (by simp [Operation.name?, hb, Except.toOption])
  | lookup u name => exact .leaves rfl
  | require u name =>
    have hr : (c.step (.require u name)).table t = c.table t := by
      rw [Client.table, require_registry, Client.table]
    rw [hr]
    exact .leaves rfl
  | symbols u => exact .leaves rfl
  | nameString i =>
    have hr : (c.step (.nameString i)).table t = c.table t := by
      simp only [step]
      split <;> rfl
    rw [hr]
    exact .leaves rfl
  | setTracking u on =>
    have ht : (c.step (.setTracking u on)).table t =
        if t = u then (c.table u).setTracking on else c.table t := table_setTable hc u t _
    rw [ht]
    split
    · next h =>
      subst h
      exact .switches on
    · exact .leaves rfl

theorem interned_run (hc : c.Sound) (ops : List (Operation n)) (t : Fin n) :
    (c.table t).Interned (interned t ops) ((c.run ops).table t) := by
  induction ops generalizing c with
  | nil => exact .refl _
  | cons op ops ih =>
    obtain ⟨hs, -⟩ := advances_step c op hc
    rw [interned_cons]
    exact (affects_step hc.length op t).interned.trans (ih hs)

theorem counted_run (hc : c.Sound) {ops : List (Operation n)} (ht : (c.table t).tracking = true)
    (hops : ∀ op ∈ ops, op ≠ .setTracking t false) :
    (c.table t).Counted (interned t ops) ((c.run ops).table t) := by
  induction ops generalizing c with
  | nil => exact .refl ht
  | cons op ops ih =>
    obtain ⟨hop, hops⟩ := List.forall_mem_cons.mp hops
    obtain ⟨hs, -⟩ := advances_step c op hc
    have h := (affects_step hc.length op t).counted ht hop
    rw [interned_cons]
    exact h.trans (ih hs h.tracking hops)

/-- The same account: counters, length and names of a table agree. -/
structure Agree (t : Fin n) (c d : Client n) : Prop where
  hits : (c.stats t).hits = (d.stats t).hits
  misses : (c.stats t).misses = (d.stats t).misses
  count : (c.stats t).count = (d.stats t).count
  registered : (c.table t).registered = (d.table t).registered

theorem agree_of_perm (hc : c.Sound) (ht : (c.table t).tracking = true)
    {ops more : List (Operation n)} (hops : ∀ op ∈ ops, op ≠ .setTracking t false)
    (hmore : ∀ op ∈ more, op ≠ .setTracking t false)
    (hp : (interned t ops).Perm (interned t more)) : Agree t (c.run ops) (c.run more) := by
  obtain ⟨hs, -⟩ := advances_run c ops hc
  obtain ⟨hs', -⟩ := advances_run c more hc
  have hr : ((c.run ops).table t).registered = ((c.run more).table t).registered := by
    rw [(interned_run hc ops t).registered, (interned_run hc more t).registered]
    congr 1
    ext name
    exact hp.mem_iff
  have hsize : ((c.run ops).table t).size = ((c.run more).table t).size := by
    rw [← (hs.canonical t).ncard_registered, hr, (hs'.canonical t).ncard_registered]
  have hm := (counted_run hc ht hops).misses
  have hm' := (counted_run hc ht hmore).misses
  have htotal := (counted_run hc ht hops).total
  have htotal' := (counted_run hc ht hmore).total
  have hl := hp.length_eq
  have hmisses : ((c.run ops).table t).misses = ((c.run more).table t).misses := by omega
  have hhits : ((c.run ops).table t).hits = ((c.run more).table t).hits := by omega
  exact ⟨hhits, hmisses, hsize, hr⟩

/-- The account of a table after a run from `c`, and after more operations. -/
structure Account (c : Client n) (t : Fin n) (ops more : List (Operation n)) : Prop where
  /-- With tracking on throughout, every interning is a hit or a miss, and the misses are the names
  that were new. -/
  tracked : (∀ op ∈ ops, op ≠ .setTracking t false) →
    ((c.run ops).stats t).misses + (c.stats t).count = ((c.run ops).stats t).count ∧
      ((c.run ops).stats t).hits + ((c.run ops).stats t).misses = (interned t ops).length ∧
      (ops.length < UInt64.size → ((c.run ops).stats t).total? = some (interned t ops).length)
  /-- Switching tracking off only takes from the counts. -/
  bounded : ((c.run ops).stats t).misses + (c.stats t).count ≤ ((c.run ops).stats t).count ∧
    ((c.run ops).stats t).hits + ((c.run ops).stats t).misses ≤ (interned t ops).length
  grows : ((c.run ops).stats t).hits ≤ (((c.run ops).run more).stats t).hits ∧
    ((c.run ops).stats t).misses ≤ (((c.run ops).run more).stats t).misses
  /-- Every name interned is registered, counted or not, and no other name becomes so. -/
  registered : ((c.run ops).table t).registered =
    (c.table t).registered ∪ {name | name ∈ interned t ops}
  /-- Nothing but interning counts, and nothing counts while tracking is off. -/
  uncounted : ∀ op, op.name? t = none ∨ ((c.run ops).table t).tracking = false →
    (((c.run ops).step op).stats t).hits = ((c.run ops).stats t).hits ∧
      (((c.run ops).step op).stats t).misses = ((c.run ops).stats t).misses
  /-- With tracking on, the account of what follows does not depend on the order of the
  internings. -/
  unordered : ((c.run ops).table t).tracking = true → ∀ other,
    (∀ op ∈ more, op ≠ .setTracking t false) → (∀ op ∈ other, op ≠ .setTracking t false) →
      (interned t more).Perm (interned t other) →
        Agree t ((c.run ops).run more) ((c.run ops).run other)

theorem registered_start (starts : List Start) (t : Fin starts.length) :
    ((start starts).table t).registered = {name | name ∈ (starts.get t).names} := by
  rw [table_start, registered_newTable]

theorem count_start (starts : List Start) (t : Fin starts.length) :
    ((start starts).stats t).count = (starts.get t).names.toFinset.card := by
  have hf : {name | name ∈ (starts.get t).names} =
      ((starts.get t).names.toFinset : Set String) := by
    ext name
    simp
  rw [stats_count, ← ((sound_start starts).canonical t).ncard_registered, registered_start, hf,
    Set.ncard_coe_finset]

theorem tracked_run (starts : List Start) (t : Fin starts.length)
    {ops : List (Operation starts.length)} (hops : ∀ op ∈ ops, op ≠ .setTracking t false) :
    (((start starts).run ops).stats t).misses + ((start starts).stats t).count =
        (((start starts).run ops).stats t).count ∧
      (((start starts).run ops).stats t).hits + (((start starts).run ops).stats t).misses =
        (interned t ops).length ∧
      (ops.length < UInt64.size →
        (((start starts).run ops).stats t).total? = some (interned t ops).length) := by
  obtain ⟨ht, hhits, hmisses⟩ := counters_newTable t (starts.get t)
  rw [← table_start] at ht hhits hmisses
  obtain ⟨-, hm, htotal⟩ := counted_run (sound_start starts) ht hops
  rw [hhits, hmisses, Nat.zero_add] at htotal
  rw [hmisses, Nat.zero_add] at hm
  refine ⟨hm, htotal, fun hlength => ?_⟩
  have hle : (interned t ops).length ≤ ops.length := List.length_filterMap_le _ _
  rw [InternerStats.total?, stats_hits, stats_misses, htotal, if_pos (hle.trans_lt hlength)]

end Client

end Registry

end LateBinding
