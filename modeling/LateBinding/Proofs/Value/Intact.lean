import LateBinding.Args
import LateBinding.Proofs.Value.Ending

/-! # Intact values

A match comes from a search, so that its spans fit its subject, and a block that takes parameters
asks for fewer of them than 64 bits can count. Whatever is built on the heap from values of a kind
holds values of it only.
-/

namespace LateBinding

namespace Match

variable {m : Match} {i : ℕ} {s : Span}

def Found (m : Match) : Prop := ∃ start, spans? m.regexp m.subject start = some m.groups

theorem splitBytes?_byteOffset (cs : List Char) (n : ℕ) :
    Slice.splitBytes? (byteOffset cs n) cs = some (cs.take n, cs.drop n) :=
  Slice.splitBytes?_eq_some_iff.mpr ⟨List.take_append_drop n cs, rfl⟩

theorem before?_byteOffset (cs : List Char) (n : ℕ) :
    Slice.before? (byteOffset cs n) cs = some (cs.take n) := by
  rw [Slice.before?, splitBytes?_byteOffset, Option.map_some]

theorem after?_byteOffset (cs : List Char) (n : ℕ) :
    Slice.after? (byteOffset cs n) cs = some (cs.drop n) := by
  rw [Slice.after?, splitBytes?_byteOffset, Option.map_some]

/-- Spans begin and end at characters of the subject. -/
theorem Found.exists_offsets (hm : m.Found) (hs : m.span? i = some s) :
    ∃ a b, s = ⟨byteOffset m.subject.toList a, byteOffset m.subject.toList b⟩ := by
  obtain ⟨start, hspans⟩ := hm
  unfold spans? at hspans
  split at hspans
  · cases hspans
  · obtain ⟨groups, -, hgroups⟩ := Option.map_eq_some_iff.mp hspans
    rw [span?, ← hgroups, List.getElem?_map, Option.join_eq_some_iff, Option.map_eq_some_iff] at hs
    obtain ⟨group, -, hgroup⟩ := hs
    obtain ⟨⟨a, b⟩, -, rfl⟩ := Option.map_eq_some_iff.mp hgroup
    exact ⟨a, b, rfl⟩

theorem Found.size_eq (hm : m.Found) : m.size = m.regexp.groupNames.length := by
  obtain ⟨start, hspans⟩ := hm
  unfold spans? at hspans
  split at hspans
  · cases hspans
  · obtain ⟨groups, hsearch, hgroups⟩ := Option.map_eq_some_iff.mp hspans
    unfold Pattern.search at hsearch
    obtain ⟨saves, -, rfl⟩ := Option.map_eq_some_iff.mp hsearch
    rw [size, ← hgroups, List.length_map, List.length_map, List.length_range, Regexp.groupNames]

theorem Found.begin?_isSome (hm : m.Found) (i : ℕ) : (m.begin? i).isSome = true := by
  unfold begin?
  split
  · rfl
  · next s hs =>
    obtain ⟨a, b, rfl⟩ := hm.exists_offsets hs
    rw [before?_byteOffset]
    rfl

theorem Found.pre?_isSome (hm : m.Found) : m.pre?.isSome = true := by
  unfold pre?
  split
  · rfl
  · next s hs =>
    obtain ⟨a, b, rfl⟩ := hm.exists_offsets hs
    rw [before?_byteOffset]
    rfl

theorem Found.post?_isSome (hm : m.Found) : m.post?.isSome = true := by
  unfold post?
  split
  · rfl
  · next s hs =>
    obtain ⟨a, b, rfl⟩ := hm.exists_offsets hs
    rw [after?_byteOffset]
    rfl

end Match

def Sized (n : ℕ) : Prop := n < wordBound

/-- A match comes from a search. A block is one of these, and it asks for fewer parameters than 64
bits can count. -/
def Value.Intact (blocks : Block → Prop) : Value → Prop
  | .matched m => m.Found
  | .proc p =>
    match p.body with
    | .send _ => True
    | .block b => Sized b.min ∧ blocks b
  | _ => True

theorem Value.Intact.imp {blocks blocks' : Block → Prop} {v : Value} (hv : v.Intact blocks)
    (h : ∀ b, blocks b → blocks' b) : v.Intact blocks' := by
  cases v with
  | proc p =>
    obtain ⟨id, body, isLambda⟩ := p
    cases body with
    | send _ => trivial
    | block b => exact ⟨hv.1, h b hv.2⟩
  | _ => exact hv

namespace Heap

variable {V : Value → Prop} {h : Heap} {v key : Value} {r : ℕ} {items : List Value} {o : Object}

structure All (V : Value → Prop) (h : Heap) : Prop where
  arrays : ∀ items ∈ h.arrays, ∀ v ∈ items, V v
  hashes : ∀ entries ∈ h.hashes, ∀ e ∈ entries, V e.1 ∧ V e.2
  objects : ∀ fields ∈ h.objects, ∀ e ∈ fields, V e.2

theorem All.array (hh : h.All V) (hv : v ∈ h.array r) : V v := by
  unfold Heap.array at hv
  cases hr : h.arrays[r]? with
  | none =>
    rw [hr] at hv
    cases hv
  | some items =>
    rw [hr] at hv
    exact hh.arrays items (Array.mem_of_getElem? hr) v hv

theorem All.hash (hh : h.All V) {e : Value × Value} (he : e ∈ h.hash r) : V e.1 ∧ V e.2 := by
  unfold Heap.hash at he
  cases hr : h.hashes[r]? with
  | none =>
    rw [hr] at he
    cases he
  | some entries =>
    rw [hr] at he
    exact hh.hashes entries (Array.mem_of_getElem? hr) e he

theorem All.fields (hh : h.All V) {e : Symbol × Value} (he : e ∈ h.fields o) : V e.2 := by
  unfold Heap.fields at he
  cases hr : h.objects[o.ref]? with
  | none =>
    rw [hr] at he
    cases he
  | some fields =>
    rw [hr] at he
    exact hh.objects fields (Array.mem_of_getElem? hr) e he

theorem All.hashGet? (hh : h.All V) (hv : h.hashGet? r key = some (some v)) : V v := by
  obtain ⟨e, he, -, rfl⟩ := exists_of_lookUp? hv
  exact (hh.hash he).2

theorem All.field? (hh : h.All V) {name : Symbol} (hv : h.field? o name = some v) : V v := by
  obtain ⟨e, he, -, rfl⟩ := Entries.exists_of_get? hv
  exact hh.fields he

theorem all_empty : Heap.empty.All V where
  arrays := by simp [Heap.empty]
  hashes := by simp [Heap.empty]
  objects := by simp [Heap.empty]

theorem All.nameString (hh : h.All V) (s : Symbol) : (h.nameString s).2.All V :=
  ⟨hh.arrays, hh.hashes, hh.objects⟩

theorem All.newArray (hh : h.All V) (hv : ∀ v ∈ items, V v) : (h.newArray items).2.All V where
  arrays := by
    intro items' hmem
    rcases Array.mem_push.mp hmem with hmem | rfl
    · exact hh.arrays items' hmem
    · exact hv
  hashes := hh.hashes
  objects := hh.objects

theorem All.setArray (hh : h.All V) (hv : ∀ v ∈ items, V v) : (h.setArray r items).All V where
  arrays := by
    intro items' hmem
    rcases Array.mem_or_eq_of_mem_setIfInBounds hmem with hmem | rfl
    · exact hh.arrays items' hmem
    · exact hv
  hashes := hh.hashes
  objects := hh.objects

theorem All.stored? (hh : h.All V) (hkey : V key) (hv : V v) {entries : List (Value × Value)}
    (hstored : h.stored? r key v = some entries) : ∀ e ∈ entries, V e.1 ∧ V e.2 := by
  obtain ⟨fed, -, hinsert⟩ := Option.bind_eq_some_iff.mp hstored
  obtain rfl := Entries.insert?_eq_some hinsert
  intro e he
  rcases Entries.mem_put he with he | ⟨hvalue, hold⟩
  · exact hh.hash he
  · refine ⟨?_, hvalue ▸ hv⟩
    rcases hold with hnew | ⟨⟨d, hd, hold⟩, -⟩
    · exact hnew ▸ hkey
    · exact hold ▸ (hh.hash hd).1

theorem All.setHash (hh : h.All V) {entries : List (Value × Value)}
    (hv : ∀ e ∈ entries, V e.1 ∧ V e.2) : (h.setHash r entries).All V where
  arrays := hh.arrays
  hashes := by
    intro entries' hmem
    rcases Array.mem_or_eq_of_mem_setIfInBounds hmem with hmem | rfl
    · exact hh.hashes entries' hmem
    · exact hv
  objects := hh.objects

theorem All.setField (hh : h.All V) {name : Symbol} (hv : V v) : (h.setField o name v).All V where
  arrays := hh.arrays
  hashes := hh.hashes
  objects := by
    intro fields hmem e he
    rcases Array.mem_or_eq_of_mem_setIfInBounds hmem with hmem | rfl
    · exact hh.objects fields hmem e he
    · rcases Entries.mem_put he with he | ⟨hvalue, -⟩
      · exact hh.fields he
      · exact hvalue ▸ hv

theorem All.newObject (hh : h.All V) (cls : Symbol) {fields : List (Symbol × Value)}
    (hv : ∀ e ∈ fields, V e.2) : (h.newObject cls fields).2.All V where
  arrays := hh.arrays
  hashes := hh.hashes
  objects := by
    have hrecord : ∀ (fs es : List (Symbol × Value)), (∀ e ∈ fs, V e.2) → (∀ e ∈ es, V e.2) →
        ∀ e ∈ fs.foldl (fun es f => Entries.put (·.same f.1) f.1 f.2 es) es, V e.2 := by
      intro fs
      induction fs with
      | nil => exact fun _ _ hes => hes
      | cons f fs ih =>
        intro es hfs hes
        refine ih _ (fun e he => hfs e (List.mem_cons_of_mem _ he)) fun e he => ?_
        rcases Entries.mem_put he with he | ⟨hvalue, -⟩
        · exact hes e he
        · exact hvalue ▸ hfs f List.mem_cons_self
    intro fields' hmem
    rcases Array.mem_push.mp hmem with hmem | rfl
    · exact hh.objects fields' hmem
    · exact hrecord fields [] hv (by simp)

end Heap

/-- Memory has room for a value. -/
def Heap.Fits (h : Heap) : Value → Prop
  | .string s => Sized s.chars.length
  | .symbol s => Sized s.length
  | .array r => Sized (h.array r).length
  | .regexp r => Sized r.groupNames.length
  | .matched m => Sized m.size
  | _ => True

end LateBinding
