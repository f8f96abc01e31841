import LateBinding.Proofs.Value.Equality

/-! # Values that stay as they are

A value is unchanged when the containers inside it hold the same as before, whatever becomes of the
rest of the heap. It is then equal to the same unchanged values. Writing in a hash leaves all values
as they are that the hash is not inside of.
-/

namespace LateBinding.Heap

variable {h h' : Heap} {a b c v p k x : Value} {n r q : ℕ} {pairs : List (Value × Value)}

def SameAt (h h' : Heap) : Value → Prop
  | .array r => h'.arrays[r]? = h.arrays[r]?
  | .hash r => h'.hashes[r]? = h.hashes[r]?
  | _ => True

def Unchanged (h h' : Heap) (v : Value) : Prop := ∀ c, h.Inside c v → h.SameAt h' c

theorem Nested.inside (hv : h.Nested v) (hc : h.Inside c v) : h.Nested c := by
  induction hc with
  | refl => exact hv
  | tail _ hp ih => exact ih (hv.part hp)

theorem Nested.stored (hv : h.Nested v) : h.Stored v := by
  cases hv with
  | intro stored _ => exact stored

theorem SameAt.array_eq (hs : h.SameAt h' (.array r)) : h'.array r = h.array r := by
  have hsame : h'.arrays[r]? = h.arrays[r]? := hs
  rw [array, array, hsame]

theorem SameAt.hash_eq (hs : h.SameAt h' (.hash r)) : h'.hash r = h.hash r := by
  have hsame : h'.hashes[r]? = h.hashes[r]? := hs
  rw [hash, hash, hsame]

theorem SameAt.parts_eq (hs : h.SameAt h' v) : h'.parts v = h.parts v := by
  cases v with
  | array r => exact hs.array_eq
  | hash r => exact congrArg (List.flatMap fun e => [e.1, e.2]) hs.hash_eq
  | _ => rfl

theorem SameAt.stored (hs : h.SameAt h' v) (hv : h.Stored v) : h'.Stored v := by
  cases v with
  | array r =>
    have hr : r < h.arrays.size := hv
    have hsame : h'.arrays[r]? = h.arrays[r]? := hs
    rw [Array.getElem?_eq_getElem hr] at hsame
    exact (Array.getElem?_eq_some_iff.mp hsame).1
  | hash r =>
    have hr : r < h.hashes.size := hv
    have hsame : h'.hashes[r]? = h.hashes[r]? := hs
    rw [Array.getElem?_eq_getElem hr] at hsame
    exact (Array.getElem?_eq_some_iff.mp hsame).1
  | _ => trivial

namespace Unchanged

theorem at_self (hv : h.Unchanged h' v) : h.SameAt h' v := hv v (.refl h v)

theorem part (hv : h.Unchanged h' v) (hp : p ∈ h.parts v) : h.Unchanged h' p :=
  fun c hc => hv c (hc.of_part hp)

theorem key (hv : h.Unchanged h' (.hash r)) {e : Value × Value} (he : e ∈ h.hash r) :
    h.Unchanged h' e.1 :=
  hv.part (key_mem_parts he)

theorem readsAs (hv : h.Unchanged h' v) (held : Option ℕ) : h.ReadsAs held h' held v := by
  cases v with
  | array r => exact hv.at_self.array_eq
  | hash r =>
    have hsame : h'.hash r = h.hash r := hv.at_self.hash_eq
    simp only [ReadsAs, read?, hsame]
  | _ => trivial

theorem feed?_eq (hv : h.Unchanged h' v) (hn : h.Nested v) (held : Option ℕ) :
    h'.feed? held v = h.feed? held v := by
  induction hn with
  | intro _ _ ih =>
    rw [Heap.feed?_eq h', Heap.feed?_eq h]
    exact feedStep_eq (hv.readsAs held) fun p hp => ih p hp (hv.part hp)

theorem eql?_eq (ha : h.Unchanged h' a) (hb : h.Unchanged h' b) (hna : h.Nested a)
    (hnb : h.Nested b) (held : Option ℕ) : h'.eql? held a b = h.eql? held a b ∧
    h'.eql? held b a = h.eql? held b a := by
  induction hna generalizing b with
  | @intro a _ parts ih =>
    have hparts : ∀ x ∈ h.parts a, ∀ y ∈ h.parts b,
        h'.eql? held x y = h.eql? held x y ∧ h'.eql? held y x = h.eql? held y x := fun x hx y hy =>
      ih x hx (ha.part hx) (hb.part hy) (hnb.part hy)
    have hfeed : ∀ x, x ∈ h.parts a ∨ x ∈ h.parts b → h'.feed? held x = h.feed? held x := by
      rintro x (hx | hx)
      · exact (ha.part hx).feed?_eq (parts x hx) held
      · exact (hb.part hx).feed?_eq (hnb.part hx) held
    have hpa := ha.at_self.parts_eq
    have hpb := hb.at_self.parts_eq
    rw [Heap.eql?_eq h', Heap.eql?_eq h held a b, Heap.eql?_eq h' held b a, Heap.eql?_eq h held b a]
    constructor
    · exact eqlStep_eq (ha.readsAs held) (hb.readsAs held) hpa hpb hfeed hparts
    · exact eqlStep_eq (hb.readsAs held) (ha.readsAs held) hpb hpa (fun x hx => hfeed x hx.symm)
        fun y hy x hx => (hparts x hx y hy).symm

/-- How deep the heap is plays no part in the equality of values without cycles. -/
theorem eql_eq (ha : h.Unchanged h' a) (hb : h.Unchanged h' b) (hna : h.Nested a)
    (hnb : h.Nested b) : h'.eql a b = h.eql a b := by
  rw [eql, eql, (ha.eql?_eq hb hna hnb none).1]

theorem sound (hv : h.Unchanged h' v) (hs : h.Sound v) : h'.Sound v := by
  induction hs with
  | @intro v proper hparts ih =>
    refine .intro ?_ fun p hp => ?_
    · cases v with
      | array r => exact hv.at_self.stored proper
      | hash r =>
        refine ⟨hv.at_self.stored proper.1, ?_⟩
        rw [hv.at_self.hash_eq]
        refine proper.2.imp_of_mem fun hd he hde => ?_
        rwa [(hv.key hd).eql_eq (hv.key he) (hparts _ (key_mem_parts hd)).nested
          (hparts _ (key_mem_parts he)).nested]
      | _ => trivial
    · rw [hv.at_self.parts_eq] at hp
      exact ih p hp (hv.part hp)

end Unchanged

/-- A value without cycles is sound if the hashes inside it have unequal keys. -/
theorem Nested.sound (hv : h.Nested v)
    (hhash : ∀ r, h.Inside (.hash r) v → (h.hash r).Pairwise fun d e => h.eql d.1 e.1 = false) :
    h.Sound v := by
  induction hv with
  | @intro v stored _ ih =>
    refine .intro ?_ fun p hp => ih p hp fun r hr => hhash r (hr.of_part hp)
    cases v with
    | hash r => exact ⟨stored, hhash r (.refl h _)⟩
    | array r => exact stored
    | _ => trivial

theorem sameAt_setHash {entries : List (Value × Value)} (hc : c ≠ .hash r) :
    h.SameAt (h.setHash r entries) c := by
  cases c with
  | array q => rfl
  | hash q =>
    have hne : r ≠ q := fun heq => hc (heq ▸ rfl)
    exact Array.getElem?_setIfInBounds_ne hne
  | _ => trivial

theorem unchanged_setHash {entries : List (Value × Value)} (hv : ¬ h.Inside (.hash r) v) :
    h.Unchanged (h.setHash r entries) v :=
  fun _ hc => sameAt_setHash fun heq => hv (heq ▸ hc)

theorem hash_setHash {entries : List (Value × Value)} (hr : r < h.hashes.size) :
    (h.setHash r entries).hash r = entries := by
  unfold setHash
  rw [hash, Array.getElem?_setIfInBounds_self_of_lt hr, Option.getD_some]

theorem Nested.stored? (hk : h.Nested k) (hkeys : ∀ e ∈ h.hash r, h.Nested e.1)
    (hout : ¬ h.Inside (.hash r) k) (houts : ∀ e ∈ h.hash r, ¬ h.Inside (.hash r) e.1) (x : Value) :
    h.stored? r k x = some (Entries.put (h.eql k) k x (h.hash r)) :=
  hk.insert? hkeys (by rintro _ ⟨⟩; exact hout) (by rintro e he _ ⟨⟩; exact houts e he) x

theorem sameAt_newHash {entries : List (Value × Value)} (hc : h.Stored c) :
    h.SameAt (h.newHash entries).2 c := by
  cases c with
  | array q => rfl
  | hash q =>
    have hq : q < h.hashes.size := hc
    exact (Array.getElem?_push_lt hq).trans (Array.getElem?_eq_getElem hq).symm
  | _ => trivial

theorem unchanged_newHash {entries : List (Value × Value)} (hv : h.Nested v) :
    h.Unchanged (h.newHash entries).2 v :=
  fun _ hc => sameAt_newHash (hv.inside hc).stored

end LateBinding.Heap
