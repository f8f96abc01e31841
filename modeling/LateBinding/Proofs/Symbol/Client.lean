import LateBinding.Proofs.Symbol.Canonical
import LateBinding.Symbol.Registry

/-! # Programs over symbol tables

A program works with several tables and keeps every symbol that they give it. Whatever it does, and
in whatever order, a symbol stands for one name of one table from the moment it is first seen.
-/

namespace LateBinding.Registry

open SymbolTable

variable {n : Nat}

/-- A step of a program over `n` tables. Strings are asked for by the number of a symbol that the
program has, the one obtained last being number zero. -/
inductive Operation (n : Nat)
  | intern (t : Fin n) (name : String)
  | internBytes (t : Fin n) (bytes : List UInt8)
  | lookup (t : Fin n) (name : String)
  | require (t : Fin n) (name : String)
  | symbols (t : Fin n)
  | nameString (i : Nat)
  | setTracking (t : Fin n) (on : Bool)
  deriving DecidableEq, Repr

/-- The tables and all symbols obtained from them so far, each with its table. -/
structure Client (n : Nat) where
  registry : Registry
  held : List (Fin n × Symbol)
  deriving DecidableEq

namespace Client

def start (starts : List Start) : Client starts.length := ⟨ofStarts starts, []⟩

def table (c : Client n) (t : Fin n) : SymbolTable := c.registry.table t

def step (c : Client n) : Operation n → Client n
  | .intern t name =>
    let (s, r) := c.registry.intern t name
    ⟨r, (t, s) :: c.held⟩
  | .internBytes t bytes =>
    match c.registry.internBytes t bytes with
    | (.ok s, r) => ⟨r, (t, s) :: c.held⟩
    | (.error _, r) => ⟨r, c.held⟩
  | .lookup t name => ⟨c.registry, (c.registry.lookup? t name).toList.map (t, ·) ++ c.held⟩
  | .require t name =>
    match c.registry.require t name with
    | .ok s => ⟨c.registry, (t, s) :: c.held⟩
    | .error _ => c
  | .symbols t => ⟨c.registry, (c.table t).symbols.map (t, ·) ++ c.held⟩
  | .nameString i =>
    match c.held[i]? with
    | some (_, s) => ⟨(c.registry.nameString s).2, c.held⟩
    | none => c
  | .setTracking t on => ⟨c.registry.setTracking t on, c.held⟩

def run (c : Client n) (ops : List (Operation n)) : Client n := ops.foldl step c

/-- The tables are canonical and told apart by their tags, what is held is registered, and the
strings are those of held symbols. -/
structure Sound (c : Client n) : Prop where
  length : c.registry.tables.length = n
  canonical : ∀ t, (c.table t).Canonical
  tag : ∀ t, (c.table t).tag = t
  held : ∀ x ∈ c.held, x.2 ∈ (c.table x.1).symbols
  strings : ∀ e ∈ c.registry.strings.names, ∃ x ∈ c.held, x.2.id = e.1 ∧ e.2.text = x.2.name

structure Later (c d : Client n) : Prop where
  tables : ∀ t, (c.table t).Extends (d.table t)
  held : c.held ⊆ d.held
  strings : ∀ s str, c.registry.strings.name? s = some str → d.registry.strings.name? s = some str

def Advances (c d : Client n) : Prop := c.Sound → d.Sound ∧ c.Later d

variable {c d e : Client n} {t : Fin n} {name : String} {s : Symbol} {x y : Fin n × Symbol}

theorem Later.refl (c : Client n) : c.Later c := ⟨fun _ => .refl _, fun _ h => h, fun _ _ h => h⟩

theorem Later.trans (h : c.Later d) (h' : d.Later e) : c.Later e :=
  ⟨fun t => (h.tables t).trans (h'.tables t), fun _ hx => h'.held (h.held hx),
    fun s str hs => h'.strings s str (h.strings s str hs)⟩

theorem Advances.refl (c : Client n) : c.Advances c := fun hc => ⟨hc, .refl c⟩

theorem Advances.trans (h : c.Advances d) (h' : d.Advances e) : c.Advances e := by
  intro hc
  obtain ⟨hd, hl⟩ := h hc
  obtain ⟨he, hl'⟩ := h' hd
  exact ⟨he, hl.trans hl'⟩

namespace Sound

theorem table_of_mem (hc : c.Sound) (hx : x ∈ c.held) : x.2.id.table = x.1 :=
  ((hc.canonical x.1).table_of_mem (hc.held x hx)).trans (hc.tag x.1)

/-- One identity, one symbol of one table. -/
theorem eq_of_same (hc : c.Sound) (hx : x ∈ c.held) (hy : y ∈ c.held)
    (h : x.2.same y.2 = true) : x = y := by
  have hi : x.2.id = y.2.id := by simpa [Symbol.same] using h
  have ht : x.1 = y.1 := by
    apply Fin.ext
    rw [← hc.table_of_mem hx, ← hc.table_of_mem hy, hi]
  have hs := hc.held x hx
  rw [ht] at hs
  exact Prod.ext ht ((hc.canonical y.1).eq_of_same hs (hc.held y hy) h)

theorem same_iff (hc : c.Sound) (hx : x ∈ c.held) (hy : y ∈ c.held) :
    x.2.same y.2 = true ↔ x.1 = y.1 ∧ x.2.name = y.2.name := by
  constructor
  · intro h
    rw [hc.eq_of_same hx hy h]
    exact ⟨rfl, rfl⟩
  · rintro ⟨ht, hn⟩
    have hs := hc.held x hx
    rw [ht] at hs
    exact ((hc.canonical y.1).same_iff hs (hc.held y hy)).mpr hn

theorem text_of_name? (hc : c.Sound) (hx : x ∈ c.held) {str : Str}
    (h : c.registry.strings.name? x.2 = some str) : str.text = x.2.name := by
  obtain ⟨before, after, he, -⟩ := List.lookup_eq_some_iff.mp h
  have hm : (x.2.id, str) ∈ c.registry.strings.names := by
    rw [he]
    exact List.mem_append_right _ List.mem_cons_self
  obtain ⟨y, hy, hi, ht⟩ := hc.strings _ hm
  rw [ht, hc.eq_of_same hy hx (by simp [Symbol.same, hi])]

end Sound

theorem table_setTable (hl : c.registry.tables.length = n) (t u : Fin n) (v : SymbolTable) :
    (c.registry.setTable t v).table u = if u = t then v else c.table u := by
  have ht : (t : Nat) < c.registry.tables.length := by
    rw [hl]
    exact t.isLt
  simp only [Registry.table, setTable, List.getElem?_set, ht, ite_true, Fin.ext_iff, table]
  by_cases h : (t : Nat) = u
  · simp [h]
  · simp [h, Ne.symm h]

theorem advances_keep {found : List Symbol} (hf : ∀ s ∈ found, s ∈ (c.table t).symbols) :
    c.Advances ⟨c.registry, found.map (t, ·) ++ c.held⟩ := by
  refine fun hc => ⟨⟨hc.length, hc.canonical, hc.tag, ?_, ?_⟩, fun _ => .refl _, ?_, fun _ _ h => h⟩
  · intro x hx
    rcases List.mem_append.mp hx with hx | hx
    · obtain ⟨s, hs, rfl⟩ := List.mem_map.mp hx
      exact hf s hs
    · exact hc.held x hx
  · intro e he
    obtain ⟨x, hx, hi⟩ := hc.strings e he
    exact ⟨x, List.mem_append_right _ hx, hi⟩
  · exact List.subset_append_right _ _

theorem advances_setTable {v : SymbolTable} (hv : (c.table t).Extends v) :
    c.Advances ⟨c.registry.setTable t v, c.held⟩ := by
  intro hc
  have hl : c.Later ⟨c.registry.setTable t v, c.held⟩ := by
    refine ⟨fun u => ?_, fun _ h => h, fun _ _ h => h⟩
    change (c.table u).Extends ((c.registry.setTable t v).table u)
    rw [table_setTable hc.length]
    split
    · next h => exact h ▸ hv
    · exact .refl _
  refine ⟨⟨?_, fun u => ?_, fun u => ?_, fun x hx => ?_, hc.strings⟩, hl⟩
  · exact List.length_set.trans hc.length
  · exact (hl.tables u).canonical (hc.canonical u)
  · exact (hl.tables u).tag.trans (hc.tag u)
  · exact (hl.tables x.1).mem_symbols (hc.held x hx)

theorem advances_nameString (hx : x ∈ c.held) :
    c.Advances ⟨(c.registry.nameString x.2).2, c.held⟩ := by
  cases hn : c.registry.strings.name? x.2 with
  | some str =>
    have he : (c.registry.nameString x.2).2 = c.registry := by
      simp only [nameString, StringStore.nameOf, hn]
    rw [he]
    exact .refl c
  | none =>
    have he : (c.registry.nameString x.2).2.strings.names =
        (x.2.id, ⟨c.registry.strings.next, x.2.name⟩) :: c.registry.strings.names := by
      simp only [nameString, StringStore.nameOf, hn, StringStore.new]
    refine fun hc => ⟨⟨hc.length, hc.canonical, hc.tag, hc.held, ?_⟩, fun _ => .refl _,
      fun _ h => h, fun s str hs => ?_⟩
    · intro e hm
      rw [he] at hm
      rcases List.mem_cons.mp hm with rfl | hm
      · exact ⟨x, hx, rfl, rfl⟩
      · exact hc.strings e hm
    · have hi : (s.id == x.2.id) = false := by
        apply beq_eq_false_iff_ne.mpr
        intro hi
        rw [StringStore.name?, hi] at hs
        exact absurd (hn.symm.trans hs) (by simp)
      rw [StringStore.name?, he, List.lookup_cons, hi]
      exact hs

theorem intern_mem_symbols (c : Client n) (t : Fin n) (name : String) :
    ((c.table t).intern name).1 ∈ ((c.table t).intern name).2.symbols :=
  List.mem_map.mpr ⟨_, mem_entries_of_lookup? (lookup?_intern _ name), rfl⟩

theorem advances_intern (c : Client n) (t : Fin n) (name : String) :
    c.Advances ⟨c.registry.setTable t ((c.table t).intern name).2,
      (t, ((c.table t).intern name).1) :: c.held⟩ := by
  intro hc
  let d : Client n := ⟨c.registry.setTable t ((c.table t).intern name).2, c.held⟩
  have hd : c.Advances d := advances_setTable (extends_intern (c.table t) name)
  have hf : ∀ s ∈ [((c.table t).intern name).1], s ∈ (d.table t).symbols := by
    refine List.forall_mem_singleton.mpr ?_
    change _ ∈ ((c.registry.setTable t _).table t).symbols
    rw [table_setTable hc.length, if_pos rfl]
    exact intern_mem_symbols c t name
  exact hd.trans (advances_keep hf) hc

theorem step_internBytes {bytes : List UInt8} (h : Utf8.text? bytes = .ok name) :
    c.step (.internBytes t bytes) = c.step (.intern t name) := by
  simp only [step, Registry.internBytes, SymbolTable.internBytes, h]
  rfl

theorem step_internBytes_of_error {bytes : List UInt8} {valid : Nat}
    (h : Utf8.text? bytes = .error valid) : c.step (.internBytes t bytes) = c := by
  simp only [step, Registry.internBytes, SymbolTable.internBytes, h]

theorem advances_step (c : Client n) (op : Operation n) : c.Advances (c.step op) := by
  cases op with
  | intern t name => exact advances_intern c t name
  | internBytes t bytes =>
    cases hb : Utf8.text? bytes with
    | ok name =>
      rw [step_internBytes hb]
      exact advances_intern c t name
    | error valid =>
      rw [step_internBytes_of_error hb]
      exact .refl c
  | lookup t name =>
    refine advances_keep fun s hs => ?_
    have hl : c.registry.lookup? t name = some s := by simpa using hs
    exact List.mem_map.mpr ⟨_, mem_entries_of_lookup? hl, rfl⟩
  | require t name =>
    cases hl : (c.table t).lookup? name with
    | some s =>
      have he : c.step (.require t name) = ⟨c.registry, [s].map (t, ·) ++ c.held⟩ := by
        change (c.registry.table t).lookup? name = some s at hl
        simp only [step, Registry.require, SymbolTable.require, hl]
        rfl
      rw [he]
      refine advances_keep (List.forall_mem_singleton.mpr ?_)
      exact List.mem_map.mpr ⟨_, mem_entries_of_lookup? hl, rfl⟩
    | none =>
      have he : c.step (.require t name) = c := by
        change (c.registry.table t).lookup? name = none at hl
        simp only [step, Registry.require, SymbolTable.require, hl]
      rw [he]
      exact .refl c
  | symbols t => exact advances_keep fun _ h => h
  | nameString i =>
    cases hi : c.held[i]? with
    | some x =>
      simp only [step, hi]
      exact advances_nameString (List.mem_of_getElem? hi)
    | none =>
      simp only [step, hi]
      exact .refl c
  | setTracking t on => exact advances_setTable (extends_setTracking _ on)

theorem advances_run (c : Client n) (ops : List (Operation n)) : c.Advances (c.run ops) := by
  induction ops generalizing c with
  | nil => exact .refl c
  | cons op ops ih => exact (advances_step c op).trans (ih _)

theorem table_start (starts : List Start) (t : Fin starts.length) :
    (start starts).table t = newTable t (starts.get t) := by
  simp [table, start, Registry.table, ofStarts, t.isLt]

theorem sound_start (starts : List Start) : (start starts).Sound := by
  have hn : ∀ (tag : Nat) (s : Start), (newTable tag s).Canonical ∧ (newTable tag s).tag = tag := by
    intro tag s
    cases s with
    | empty => exact ⟨canonical_empty tag, rfl⟩
    | known => exact ⟨canonical_known tag, tag_known tag⟩
  refine ⟨List.length_mapIdx, fun t => ?_, fun t => ?_, fun x h => absurd h (by simp [start]),
    fun e h => absurd h (by simp [start, ofStarts, StringStore.empty])⟩
  · rw [table_start]
    exact (hn t _).1
  · rw [table_start]
    exact (hn t _).2

/-- What a program can rely on at two moments, the second one later. -/
structure Coherent (early late : Client n) : Prop where
  entry_name : ∀ t, ∀ e ∈ (late.table t).entries, e.2.name = e.1
  held : early.held ⊆ late.held
  registered : ∀ x ∈ late.held, late.registry.lookup? x.1 x.2.name = some x.2
  /-- Symbols of one table are the same when their names are equal, and those of two tables never
  are. -/
  same_iff : ∀ x ∈ late.held, ∀ y ∈ late.held,
    (x.2.same y.2 = true ↔ x.1 = y.1 ∧ x.2.name = y.2.name)
  /-- A registered name keeps its symbol, in whatever way it is asked for. -/
  keeps : ∀ (t : Fin n) name s, early.registry.lookup? t name = some s →
    late.registry.lookup? t name = some s ∧ late.registry.require t name = .ok s ∧
      (late.registry.intern t name).1 = s ∧
      ∀ bytes, Utf8.text? bytes = .ok name → (late.registry.internBytes t bytes).1 = .ok s
  /-- To look a name up registers nothing. -/
  asks : ∀ (t : Fin n) name, (late.step (.lookup t name)).registry = late.registry ∧
    (late.step (.require t name)).registry = late.registry
  symbols_nodup : ∀ t, (late.table t).symbols.Nodup
  mem_symbols : ∀ (t : Fin n) s,
    s ∈ (late.table t).symbols ↔ ∃ name, late.registry.lookup? t name = some s
  size : ∀ t, (late.table t).size = {name | ∃ s, late.registry.lookup? t name = some s}.ncard
  /-- The string of a symbol is made once, and all copies of the symbol share it. -/
  nameString : ∀ x ∈ late.held, ∀ y ∈ late.held, x.2.same y.2 = true →
    ∀ str, early.registry.strings.name? x.2 = some str →
      late.registry.nameString y.2 = (str, late.registry) ∧ str.text = y.2.name
  /-- It is there from the first time that it is asked for. -/
  hasName : ∀ x ∈ late.held, (late.registry.nameString x.2).2.strings.name? x.2 =
    some (late.registry.nameString x.2).1 ∧ (late.registry.nameString x.2).1.text = x.2.name

theorem require_registry (c : Client n) (t : Fin n) (name : String) :
    (c.step (.require t name)).registry = c.registry := by
  simp only [step]
  split <;> rfl

theorem internBytes_eq {bytes : List UInt8} (h : Utf8.text? bytes = .ok name) :
    c.registry.internBytes t bytes = (.ok (c.registry.intern t name).1,
      (c.registry.intern t name).2) := by
  simp only [Registry.internBytes, SymbolTable.internBytes, h]
  rfl

theorem internBytes_eq_of_error {bytes : List UInt8} {valid : Nat}
    (h : Utf8.text? bytes = .error valid) :
    c.registry.internBytes t bytes = (.error (.invalidName valid), c.registry) := by
  simp only [Registry.internBytes, SymbolTable.internBytes, h]

theorem answers_of_lookup? (h : c.registry.lookup? t name = some s) :
    c.registry.lookup? t name = some s ∧ c.registry.require t name = .ok s ∧
      (c.registry.intern t name).1 = s ∧
      ∀ bytes, Utf8.text? bytes = .ok name → (c.registry.internBytes t bytes).1 = .ok s := by
  have hi : (c.registry.intern t name).1 = s := intern_eq_of_lookup? h
  refine ⟨h, ?_, hi, fun bytes hb => ?_⟩
  · change (c.registry.table t).lookup? name = some s at h
    simp only [Registry.require, SymbolTable.require, h]
  · rw [internBytes_eq hb, hi]

theorem nameString_of_name? {str : Str} (h : c.registry.strings.name? s = some str) :
    c.registry.nameString s = (str, c.registry) := by
  simp only [nameString, StringStore.nameOf, h]

theorem name?_nameString (c : Client n) (s : Symbol) :
    (c.registry.nameString s).2.strings.name? s = some (c.registry.nameString s).1 := by
  cases h : c.registry.strings.name? s with
  | some str => rw [nameString_of_name? h, h]
  | none =>
    simp only [nameString, StringStore.nameOf, h, StringStore.new]
    exact List.lookup_cons_self

theorem size_table (hc : c.Sound) (t : Fin n) :
    (c.table t).size = {name | ∃ s, c.registry.lookup? t name = some s}.ncard := by
  rw [← (hc.canonical t).ncard_registered]
  congr 1
  ext name
  exact Option.isSome_iff_exists

theorem mem_symbols_table (hc : c.Sound) (t : Fin n) (s : Symbol) :
    s ∈ (c.table t).symbols ↔ ∃ name, c.registry.lookup? t name = some s := by
  rw [(hc.canonical t).mem_symbols_iff]
  constructor
  · exact fun h => ⟨s.name, h⟩
  · rintro ⟨name, h⟩
    rw [(hc.canonical t).name_of_lookup? h]
    exact h

end Client

end LateBinding.Registry
