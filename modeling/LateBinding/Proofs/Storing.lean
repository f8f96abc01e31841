import LateBinding.Proofs.Entries
import Mathlib.Data.List.Pairwise

/-! # Entries that are stored one after the other

Storing keeps the place and the key of an entry whose key is the same, and replaces its value. When
the test is an equivalence, what is left of any number of pairs are the keys that came first, in
their order, each with the value that came last.
-/

namespace LateBinding.Entries

universe u v

variable {κ : Type u} {ν : Type v} {same : κ → κ → Bool} {S : κ → Prop} {ks : List κ} {k : κ}
  {stored es : List (κ × ν)} {d e : κ × ν}

structure Equates (same : κ → κ → Bool) (S : κ → Prop) : Prop where
  refl : ∀ {a}, S a → same a a = true
  symm : ∀ {a b}, S a → S b → same a b = true → same b a = true
  trans : ∀ {a b c}, S a → S b → S c → same a b = true → same b c = true → same a c = true

/-- The entries that result from storing each value under its key, in order. -/
def gather (same : κ → κ → Bool) (stored : List (κ × ν)) : List (κ × ν) :=
  stored.foldl (fun es d => put (same d.1) d.1 d.2 es) []

def firstKeys (same : κ → κ → Bool) (ks : List κ) : List κ :=
  (ks.zipIdx.filter fun k => !(ks.take k.2).any (same · k.1)).map Prod.fst

def lastValue (same : κ → κ → Bool) (stored : List (κ × ν)) (k : κ) : Option ν :=
  (stored.reverse.find? fun d => same k d.1).map Prod.snd

theorem gather_concat (same : κ → κ → Bool) (stored : List (κ × ν)) (d : κ × ν) :
    gather same (stored ++ [d]) = put (same d.1) d.1 d.2 (gather same stored) := by
  unfold gather
  rw [List.foldl_concat]

theorem firstKeys_concat (same : κ → κ → Bool) (ks : List κ) (k : κ) : firstKeys same (ks ++ [k]) =
    if ks.any (same · k) then firstKeys same ks else firstKeys same ks ++ [k] := by
  have hfront : ks.zipIdx.filter (fun x => !((ks ++ [k]).take x.2).any (same · x.1)) =
      ks.zipIdx.filter fun x => !(ks.take x.2).any (same · x.1) := by
    refine List.filter_congr fun x hx => ?_
    have hlt := List.snd_lt_of_mem_zipIdx hx
    rw [List.take_append_of_le_length (by omega)]
  unfold firstKeys
  rw [List.zipIdx_append, List.filter_append, hfront, List.map_append]
  cases hk : ks.any (same · k) <;> simp [hk]

theorem lastValue_concat (same : κ → κ → Bool) (stored : List (κ × ν)) (d : κ × ν) (k : κ) :
    lastValue same (stored ++ [d]) k = if same k d.1 then some d.2
    else lastValue same stored k := by
  unfold lastValue
  rw [List.reverse_concat, List.find?_cons]
  cases same k d.1 <;> rfl

theorem isSome_lastValue (same : κ → κ → Bool) (stored : List (κ × ν)) (k : κ) :
    (lastValue same stored k).isSome = stored.any fun d => same k d.1 := by
  unfold lastValue
  rw [Option.isSome_map, Bool.eq_iff_iff, List.find?_isSome, List.any_eq_true]
  simp only [List.mem_reverse]

theorem mem_of_mem_firstKeys (hk : k ∈ firstKeys same ks) : k ∈ ks := by
  obtain ⟨x, hx, rfl⟩ := List.mem_map.mp hk
  exact List.fst_mem_of_mem_zipIdx (List.mem_of_mem_filter hx)

theorem mem_keys_gather (hk : k ∈ (gather same stored).map Prod.fst) : k ∈ stored.map Prod.fst := by
  induction stored using List.reverseRecOn with
  | nil => exact hk
  | append_singleton stored d ih =>
    rw [gather_concat] at hk
    rw [List.map_append, List.mem_append, List.map_singleton, List.mem_singleton]
    exact (mem_keys_put hk).imp_left ih

/-- Only the stored keys are tested, with one another. -/
theorem gather_congr {same' : κ → κ → Bool}
    (hc : ∀ a ∈ stored.map Prod.fst, ∀ b ∈ stored.map Prod.fst, same a b = same' a b) :
    gather same stored = gather same' stored := by
  induction stored using List.reverseRecOn with
  | nil => rfl
  | append_singleton stored d ih =>
    rw [List.map_append, List.map_singleton] at hc
    have hrest := ih fun a ha b hb => hc a (List.mem_append_left _ ha) b (List.mem_append_left _ hb)
    rw [gather_concat, gather_concat, ← hrest]
    refine put_congr fun e he => hc d.1 (by simp) e.1 (List.mem_append_left _ ?_)
    exact mem_keys_gather (List.mem_map_of_mem he)

theorem get?_put_of_disjoint {hit other : κ → Bool} {v : ν} (hk : other k = false)
    (h : ∀ e ∈ es, hit e.1 = true → other e.1 = false) :
    get? other (put hit k v es) = get? other es := by
  induction es with
  | nil => simp [put, get?, hk]
  | cons e es ih =>
    have hrest := ih fun f hf => h f (List.mem_cons_of_mem e hf)
    cases he : hit e.1 with
    | true => simp [put, get?, he, h e List.mem_cons_self he]
    | false => simp [put, get?, he, hrest]

section Gathered

variable (h : Equates same S)

include h

theorem Equates.any_firstKeys (hks : ∀ a ∈ ks, S a) (hk : S k) :
    (firstKeys same ks).any (same k) = ks.any (same · k) := by
  induction ks using List.reverseRecOn with
  | nil => rfl
  | append_singleton ks a ih =>
    have hrest : ∀ b ∈ ks, S b := fun b hb => hks b (List.mem_append_left _ hb)
    have ha : S a := hks a (by simp)
    have hturn : same k a = same a k := Bool.eq_iff_iff.mpr ⟨h.symm hk ha, h.symm ha hk⟩
    rw [firstKeys_concat, List.any_append, ← ih hrest]
    split
    · next hany =>
      -- the last key is the same as an earlier one, so that the earlier one does for it
      obtain ⟨b, hb, hba⟩ := List.any_eq_true.mp hany
      have himp : same a k = true → (firstKeys same ks).any (same k) = true := by
        intro hak
        rw [ih hrest]
        exact List.any_eq_true.mpr ⟨b, hb, h.trans (hrest b hb) ha hk hba hak⟩
      cases hak : same a k with
      | true => simp [himp hak, hak]
      | false => simp [hak]
    · simp [hturn]

theorem Equates.pairwise_firstKeys (hks : ∀ a ∈ ks, S a) :
    (firstKeys same ks).Pairwise fun a b => same a b = false ∧ same b a = false := by
  induction ks using List.reverseRecOn with
  | nil => exact .nil
  | append_singleton ks a ih =>
    have hrest : ∀ b ∈ ks, S b := fun b hb => hks b (List.mem_append_left _ hb)
    have ha : S a := hks a (by simp)
    rw [firstKeys_concat]
    split
    · exact ih hrest
    · next hany =>
      refine List.pairwise_append.mpr ⟨ih hrest, List.pairwise_singleton _ _, fun b hb c hc => ?_⟩
      obtain rfl := List.mem_singleton.mp hc
      have hmem := mem_of_mem_firstKeys hb
      have hapart : same b c = false := by
        rw [Bool.eq_false_iff]
        exact fun hbc => hany (List.any_eq_true.mpr ⟨b, hmem, hbc⟩)
      refine ⟨hapart, ?_⟩
      rw [Bool.eq_false_iff]
      intro hcb
      rw [h.symm ha (hrest b hmem) hcb] at hapart
      cases hapart

variable (hs : ∀ d ∈ stored, S d.1)

include hs

theorem Equates.keys_gather :
    (gather same stored).map Prod.fst = firstKeys same (stored.map Prod.fst) := by
  induction stored using List.reverseRecOn with
  | nil => rfl
  | append_singleton stored d ih =>
    have hrest : ∀ e ∈ stored, S e.1 := fun e he => hs e (List.mem_append_left _ he)
    have hkeys : ∀ a ∈ stored.map Prod.fst, S a := List.forall_mem_map.mpr hrest
    have hhas : has (same d.1) (gather same stored) = (stored.map Prod.fst).any (same · d.1) := by
      rw [← h.any_firstKeys hkeys (hs d (by simp)), ← ih hrest, has_eq_any, List.any_map]
      rfl
    rw [gather_concat, map_fst_put, hhas, ih hrest, List.map_append, List.map_singleton,
      firstKeys_concat]

theorem Equates.mem_gather (he : e ∈ gather same stored) : S e.1 := by
  have hmem : e.1 ∈ firstKeys same (stored.map Prod.fst) := by
    rw [← h.keys_gather hs]
    exact List.mem_map_of_mem he
  obtain ⟨d, hd, hkey⟩ := List.mem_map.mp (mem_of_mem_firstKeys hmem)
  exact hkey ▸ hs d hd

theorem Equates.get?_gather (hk : S k) :
    get? (same k) (gather same stored) = lastValue same stored k := by
  induction stored using List.reverseRecOn with
  | nil => rfl
  | append_singleton stored d ih =>
    have hrest : ∀ e ∈ stored, S e.1 := fun e he => hs e (List.mem_append_left _ he)
    have hd : S d.1 := hs d (by simp)
    rw [gather_concat, lastValue_concat]
    split
    · next hkd =>
      have hagree : ∀ e ∈ put (same d.1) d.1 d.2 (gather same stored),
          same k e.1 = same d.1 e.1 := by
        intro e he
        rw [← gather_concat] at he
        have hmem := h.mem_gather hs he
        rw [Bool.eq_iff_iff]
        exact ⟨h.trans hd hk hmem (h.symm hk hd hkd), h.trans hk hd hmem hkd⟩
      rw [get?_congr hagree, get?_put (h.refl hd)]
    · next hkd =>
      rw [Bool.not_eq_true] at hkd
      rw [get?_put_of_disjoint hkd, ih hrest]
      intro e he hde
      have hmem := h.mem_gather hrest he
      rw [Bool.eq_false_iff]
      intro hke
      rw [h.trans hk hmem hd hke (h.symm hd hmem hde)] at hkd
      cases hkd

theorem Equates.pairwise_gather :
    (gather same stored).Pairwise fun d e => same d.1 e.1 = false ∧ same e.1 d.1 = false := by
  have hpairwise := h.pairwise_firstKeys (List.forall_mem_map.mpr hs)
  rwa [← h.keys_gather hs, List.pairwise_map] at hpairwise

theorem Equates.lastValue_of_mem (he : e ∈ gather same stored) :
    lastValue same stored e.1 = some e.2 := by
  have hkey := h.mem_gather hs he
  rw [← h.get?_gather hs hkey]
  refine get?_of_unique he (h.refl hkey) fun d hd hsame => ?_
  by_contra hne
  have : Std.Symm fun d e : κ × ν => same d.1 e.1 = false ∧ same e.1 d.1 = false :=
    ⟨fun _ _ => And.symm⟩
  have hapart := ((h.pairwise_gather hs).forall hd he hne).2
  rw [hsame] at hapart
  cases hapart

end Gathered

end LateBinding.Entries
