import LateBinding.Symbol.Table
import Mathlib.Data.List.Nodup
import Mathlib.Data.List.Range
import Mathlib.Data.Set.Card

/-! # Canonical symbol tables

In a canonical table every name has one entry, every symbol bears the name of its entry, and the
places count the registrations. Names and identities then determine each other. Tables only grow:
what a table gives for a name it gives in all tables that extend it.
-/

namespace LateBinding.SymbolTable

variable {t u v : SymbolTable} {name : String} {a b s : Symbol}

structure Canonical (t : SymbolTable) : Prop where
  names_nodup : (t.entries.map Prod.fst).Nodup
  named : ∀ e ∈ t.entries, e.2.name = e.1
  tagged : ∀ e ∈ t.entries, e.2.id.table = t.tag
  places : t.entries.map (fun e => e.2.id.place) = (List.range t.size).reverse

def registered (t : SymbolTable) : Set String := {name | (t.lookup? name).isSome}

theorem lookup?_eq_none_iff : t.lookup? name = none ↔ name ∉ t.entries.map Prod.fst := by
  simp only [lookup?, List.lookup_eq_none_iff, List.mem_map, not_exists, not_and, bne_iff_ne]
  exact ⟨fun h e he hn => h e he hn.symm, fun h e he hn => h e he hn.symm⟩

theorem mem_registered_iff : name ∈ t.registered ↔ name ∈ t.entries.map Prod.fst := by
  rw [registered, Set.mem_ofPred_eq, Option.isSome_iff_ne_none, Ne, lookup?_eq_none_iff, not_not]

theorem mem_entries_of_lookup? (h : t.lookup? name = some s) : (name, s) ∈ t.entries := by
  obtain ⟨before, after, he, -⟩ := List.lookup_eq_some_iff.mp h
  rw [he]
  exact List.mem_append_right _ List.mem_cons_self

namespace Canonical

theorem lookup?_eq_some_iff (ht : t.Canonical) :
    t.lookup? name = some s ↔ (name, s) ∈ t.entries := by
  refine ⟨mem_entries_of_lookup?, fun h => ?_⟩
  cases hl : t.lookup? name with
  | none => exact absurd (List.mem_map_of_mem h) (lookup?_eq_none_iff.mp hl)
  | some r =>
    have he := List.inj_on_of_nodup_map ht.names_nodup (mem_entries_of_lookup? hl) h rfl
    rw [(Prod.mk.inj he).2]

theorem name_of_lookup? (ht : t.Canonical) (h : t.lookup? name = some s) : s.name = name :=
  ht.named _ (mem_entries_of_lookup? h)

theorem mem_symbols_iff (ht : t.Canonical) : s ∈ t.symbols ↔ t.lookup? s.name = some s := by
  rw [ht.lookup?_eq_some_iff]
  constructor
  · intro h
    obtain ⟨e, he, rfl⟩ := List.mem_map.mp h
    rw [ht.named e he]
    exact he
  · exact fun h => List.mem_map.mpr ⟨_, h, rfl⟩

theorem nodup_places (ht : t.Canonical) : (t.symbols.map (·.id.place)).Nodup := by
  rw [symbols, List.map_map]
  change (t.entries.map fun e => e.2.id.place).Nodup
  rw [ht.places]
  exact List.nodup_reverse.mpr List.nodup_range

theorem nodup_symbols (ht : t.Canonical) : t.symbols.Nodup := List.Nodup.of_map _ ht.nodup_places

theorem table_of_mem (ht : t.Canonical) (hs : s ∈ t.symbols) : s.id.table = t.tag := by
  obtain ⟨e, he, rfl⟩ := List.mem_map.mp hs
  exact ht.tagged e he

theorem eq_of_same (ht : t.Canonical) (ha : a ∈ t.symbols) (hb : b ∈ t.symbols)
    (h : a.same b = true) : a = b := by
  have hi : a.id = b.id := by simpa [Symbol.same] using h
  exact List.inj_on_of_nodup_map ht.nodup_places ha hb (congrArg SymbolId.place hi)

/-- Within one table identity is equality of names. -/
theorem same_iff (ht : t.Canonical) (ha : a ∈ t.symbols) (hb : b ∈ t.symbols) :
    a.same b = true ↔ a.name = b.name := by
  constructor
  · exact fun h => congrArg Symbol.name (ht.eq_of_same ha hb h)
  · intro h
    have hl := ht.mem_symbols_iff.mp ha
    rw [h, ht.mem_symbols_iff.mp hb, Option.some.injEq] at hl
    simp [Symbol.same, hl]

theorem ncard_registered (ht : t.Canonical) : t.registered.ncard = t.size := by
  have he : t.registered = ((t.entries.map Prod.fst).toFinset : Set String) := by
    ext name
    rw [mem_registered_iff, Finset.mem_coe, List.mem_toFinset]
  rw [he, Set.ncard_coe_finset, List.toFinset_card_of_nodup ht.names_nodup, List.length_map, size]

end Canonical

theorem finite_registered : t.registered.Finite := by
  refine Set.Finite.subset (t.entries.map Prod.fst).finite_toSet fun name h => ?_
  exact mem_registered_iff.mp h

theorem canonical_empty (tag : Nat) : (empty tag).Canonical :=
  ⟨List.nodup_nil, by simp [empty], by simp [empty], rfl⟩

/-- What becomes of a table: it has the same tag, all its entries stay, and it stays canonical. -/
structure Extends (t u : SymbolTable) : Prop where
  tag : u.tag = t.tag
  entries : t.entries <:+ u.entries
  canonical : t.Canonical → u.Canonical

namespace Extends

theorem refl (t : SymbolTable) : t.Extends t := ⟨rfl, List.suffix_rfl, id⟩

theorem trans (h : t.Extends u) (h' : u.Extends v) : t.Extends v :=
  ⟨h'.tag.trans h.tag, h.entries.trans h'.entries, fun ht => h'.canonical (h.canonical ht)⟩

theorem lookup? (h : t.Extends u) (ht : t.Canonical) (hs : t.lookup? name = some s) :
    u.lookup? name = some s :=
  (h.canonical ht).lookup?_eq_some_iff.mpr (h.entries.subset (mem_entries_of_lookup? hs))

theorem mem_symbols (h : t.Extends u) (hs : s ∈ t.symbols) : s ∈ u.symbols :=
  (h.entries.map Prod.snd).subset hs

theorem registered_subset (h : t.Extends u) : t.registered ⊆ u.registered := by
  intro name hn
  rw [mem_registered_iff] at hn ⊢
  exact (h.entries.map Prod.fst).subset hn

theorem size_eq (h : t.Extends u) (ht : t.Canonical) :
    u.size = t.size + (u.registered \ t.registered).ncard := by
  have hs := Set.ncard_sdiff_add_ncard_of_subset h.registered_subset finite_registered
  rw [ht.ncard_registered, (h.canonical ht).ncard_registered] at hs
  omega

end Extends

@[simp] theorem entries_countHit (t : SymbolTable) : t.countHit.entries = t.entries := by
  unfold countHit; split <;> rfl

@[simp] theorem entries_countMiss (t : SymbolTable) : t.countMiss.entries = t.entries := by
  unfold countMiss; split <;> rfl

@[simp] theorem tracking_countHit (t : SymbolTable) : t.countHit.tracking = t.tracking := by
  unfold countHit; split <;> rfl

@[simp] theorem tracking_countMiss (t : SymbolTable) : t.countMiss.tracking = t.tracking := by
  unfold countMiss; split <;> rfl

theorem extends_countHit (t : SymbolTable) : t.Extends t.countHit := by
  unfold countHit
  split
  · exact ⟨rfl, List.suffix_rfl, fun ht => ⟨ht.1, ht.2, ht.3, ht.4⟩⟩
  · exact .refl t

theorem extends_countMiss (t : SymbolTable) : t.Extends t.countMiss := by
  unfold countMiss
  split
  · exact ⟨rfl, List.suffix_rfl, fun ht => ⟨ht.1, ht.2, ht.3, ht.4⟩⟩
  · exact .refl t

theorem extends_setTracking (t : SymbolTable) (on : Bool) : t.Extends (t.setTracking on) :=
  ⟨rfl, List.suffix_rfl, fun ht => ⟨ht.1, ht.2, ht.3, ht.4⟩⟩

theorem extends_register (h : t.lookup? name = none) : t.Extends (t.register name) := by
  refine ⟨rfl, List.suffix_cons _ _, fun ht => ⟨?_, ?_, ?_, ?_⟩⟩
  · exact List.nodup_cons.mpr ⟨lookup?_eq_none_iff.mp h, ht.names_nodup⟩
  · exact List.forall_mem_cons.mpr ⟨rfl, ht.named⟩
  · exact List.forall_mem_cons.mpr ⟨rfl, ht.tagged⟩
  · have hp := ht.places
    simp only [size] at hp
    simp [register, size, nextSymbol, List.range_succ, hp]

theorem lookup?_register (t : SymbolTable) (name : String) :
    (t.register name).lookup? name = some (t.nextSymbol name) := by
  simp [register, lookup?]

theorem extends_intern (t : SymbolTable) (name : String) : t.Extends (t.intern name).2 := by
  unfold intern
  split
  · exact extends_countHit t
  · next h => exact (extends_register h).trans (extends_countMiss _)

theorem intern_eq_of_lookup? (h : t.lookup? name = some s) : (t.intern name).1 = s := by
  rw [intern, h]

/-- Interning a registered name only counts a hit. -/
theorem intern_of_mem_registered (h : name ∈ t.registered) : (t.intern name).2 = t.countHit := by
  obtain ⟨s, hs⟩ := Option.isSome_iff_exists.mp h
  rw [intern, hs]

theorem intern_congr (hentries : t.entries = u.entries) (htag : t.tag = u.tag) :
    (t.intern name).1 = (u.intern name).1 := by
  unfold intern lookup? nextSymbol size
  rw [hentries, htag]
  split <;> rfl

theorem extends_preintern (names : List String) (t : SymbolTable) :
    t.Extends (t.preintern names) := by
  induction names generalizing t with
  | nil => exact .refl t
  | cons name names ih =>
    refine Extends.trans ?_ (ih _)
    dsimp only
    split
    · exact .refl t
    · next h => exact extends_register (Option.not_isSome_iff_eq_none.mp h)

theorem canonical_known (tag : Nat) : (known tag).Canonical :=
  (extends_preintern knownNames _).canonical (canonical_empty tag)

theorem tag_known (tag : Nat) : (known tag).tag = tag :=
  (extends_preintern knownNames (empty tag)).tag

end LateBinding.SymbolTable
