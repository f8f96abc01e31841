import LateBinding.Entries
import Mathlib.Data.Finset.Card
import Mathlib.Data.Finset.Lattice.Lemmas
import Mathlib.Data.List.Forall2

/-! # Looking up and storing entries

What a test finds is the value of an entry whose key passes it. Entries with keys of two kinds
behave alike when the tests agree along a map or a relation of the keys.
-/

namespace LateBinding.Entries

universe u v w x

variable {κ : Type u} {ν : Type v} {κ' : Type w} {hit hit' : κ → Bool} {es : List (κ × ν)}
  {e : κ × ν}

theorem exists_of_get? {x : ν} (hx : get? hit es = some x) :
    ∃ e ∈ es, hit e.1 = true ∧ e.2 = x := by
  induction es with
  | nil => cases hx
  | cons d es ih =>
    unfold get? at hx
    split at hx
    · next hd => exact ⟨d, List.mem_cons_self, hd, Option.some.inj hx⟩
    · obtain ⟨e, he, hit, rfl⟩ := ih hx
      exact ⟨e, List.mem_cons_of_mem _ he, hit, rfl⟩

theorem get?_of_unique (he : e ∈ es) (hit_e : hit e.1 = true)
    (only : ∀ d ∈ es, hit d.1 = true → d = e) : get? hit es = some e.2 := by
  induction es with
  | nil => cases he
  | cons d es ih =>
    unfold get?
    split
    · next hd => rw [← only d List.mem_cons_self hd]
    · next hd =>
      rcases List.mem_cons.mp he with rfl | he
      · exact absurd hit_e hd
      · exact ih he fun d hd => only d (List.mem_cons_of_mem _ hd)

theorem get?_congr (hc : ∀ e ∈ es, hit e.1 = hit' e.1) : get? hit es = get? hit' es := by
  induction es with
  | nil => rfl
  | cons d es ih =>
    unfold get?
    rw [hc d List.mem_cons_self, ih fun e he => hc e (List.mem_cons_of_mem _ he)]

theorem put_congr {k : κ} {x : ν} (hc : ∀ e ∈ es, hit e.1 = hit' e.1) :
    put hit k x es = put hit' k x es := by
  induction es with
  | nil => rfl
  | cons d es ih =>
    unfold put
    rw [hc d List.mem_cons_self, ih fun e he => hc e (List.mem_cons_of_mem _ he)]

section MayNotEnd

variable {same same' : κ → Option Bool} {k : κ} {x : ν} {found : Option ν} {es' : List (κ × ν)}

theorem find?_of_ends (hc : ∀ e ∈ es, same e.1 = some (hit e.1)) :
    find? same es = some (get? hit es) := by
  induction es with
  | nil => rfl
  | cons d es ih =>
    have hrest := ih fun e he => hc e (List.mem_cons_of_mem _ he)
    unfold find? get?
    rw [hc d List.mem_cons_self, hrest]
    cases hit d.1 <;> rfl

theorem insert?_of_ends (hc : ∀ e ∈ es, same e.1 = some (hit e.1)) :
    insert? same k x es = some (put hit k x es) := by
  induction es with
  | nil => rfl
  | cons d es ih =>
    have hrest := ih fun e he => hc e (List.mem_cons_of_mem _ he)
    unfold insert? put
    rw [hc d List.mem_cons_self, hrest]
    cases hit d.1 <;> rfl

theorem isSome_find? (hc : ∀ e ∈ es, (same e.1).isSome = true) : (find? same es).isSome = true := by
  have hfind : find? same es = some (get? (fun k => (same k).getD false) es) := by
    refine find?_of_ends fun e he => ?_
    obtain ⟨b, hb⟩ := Option.isSome_iff_exists.mp (hc e he)
    rw [hb, Option.getD_some]
  rw [hfind, Option.isSome_some]

theorem find?_eq_some (h : find? same es = some found) : found = get? (same · == some true) es := by
  induction es with
  | nil => exact (Option.some.inj h).symm
  | cons d es ih =>
    unfold find? at h
    unfold get?
    split at h
    · next hd => rw [← Option.some.inj h, hd]; rfl
    · next hd => rw [hd]; exact ih h
    · cases h

theorem insert?_eq_some (h : insert? same k x es = some es') :
    es' = put (same · == some true) k x es := by
  induction es generalizing es' with
  | nil => exact (Option.some.inj h).symm
  | cons d es ih =>
    unfold insert? at h
    unfold put
    split at h
    · next hd => rw [← Option.some.inj h, hd]; rfl
    · next hd =>
      obtain ⟨rest, hrest, rfl⟩ := Option.map_eq_some_iff.mp h
      rw [hd, ih hrest]
      rfl
    · cases h

/-- A test that tells more finds the same. -/
theorem find?_mono (hc : ∀ e ∈ es, ∀ b, same e.1 = some b → same' e.1 = some b)
    (h : find? same es = some found) : find? same' es = some found := by
  induction es with
  | nil => exact h
  | cons d es ih =>
    have hhead := hc d List.mem_cons_self
    unfold find? at h ⊢
    split at h
    · next hd => rw [hhead _ hd]; exact h
    · next hd => rw [hhead _ hd]; exact ih (fun e he => hc e (List.mem_cons_of_mem _ he)) h
    · cases h

end MayNotEnd

section Map

variable {g : κ → κ'} {test : κ' → Bool}

theorem get?_map (hg : ∀ e ∈ es, test (g e.1) = hit e.1) :
    get? test (es.map fun e => (g e.1, e.2)) = get? hit es := by
  induction es with
  | nil => rfl
  | cons d es ih =>
    rw [List.map_cons, get?, get?, hg d List.mem_cons_self,
      ih fun e he => hg e (List.mem_cons_of_mem _ he)]

theorem map_put {k : κ} {x : ν} (hg : ∀ e ∈ es, test (g e.1) = hit e.1) :
    (put hit k x es).map (fun e => (g e.1, e.2)) =
      put test (g k) x (es.map fun e => (g e.1, e.2)) := by
  induction es with
  | nil => rfl
  | cons d es ih =>
    rw [List.map_cons, put, put, hg d List.mem_cons_self]
    split
    · rfl
    · rw [List.map_cons, ih fun e he => hg e (List.mem_cons_of_mem _ he)]

end Map

section Related

variable {ν' : Type x} {K : κ → κ' → Prop} {V : ν → ν' → Prop} {es' : List (κ' × ν')}
  {test : κ' → Bool}

abbrev Related (K : κ → κ' → Prop) (V : ν → ν' → Prop) : List (κ × ν) → List (κ' × ν') → Prop :=
  List.Forall₂ fun e e' => K e.1 e'.1 ∧ V e.2 e'.2

theorem Related.get? (h : Related K V es es') (ht : ∀ {k k'}, K k k' → hit k = test k') :
    Option.Rel V (Entries.get? hit es) (Entries.get? test es') := by
  induction h with
  | nil => exact .none
  | cons he _ ih =>
    unfold Entries.get?
    rw [ht he.1]
    split
    · exact .some he.2
    · exact ih

theorem Related.put (h : Related K V es es') (ht : ∀ {k k'}, K k k' → hit k = test k')
    {k : κ} {k' : κ'} {v : ν} {v' : ν'} (hk : K k k') (hv : V v v') :
    Related K V (Entries.put hit k v es) (Entries.put test k' v' es') := by
  induction h with
  | nil => exact .cons ⟨hk, hv⟩ .nil
  | cons he hes ih =>
    unfold Entries.put
    rw [ht he.1]
    split
    · exact .cons ⟨he.1, hv⟩ hes
    · exact .cons he ih

section

variable {same : κ → Option Bool} {same' : κ' → Option Bool}
  (hs : ∀ {k k'}, K k k' → same k = same' k')

include hs

theorem Related.find? (h : Related K V es es') :
    Option.Rel (Option.Rel V) (Entries.find? same es) (Entries.find? same' es') := by
  induction h with
  | nil => exact .some .none
  | cons he _ ih =>
    unfold Entries.find?
    rw [hs he.1]
    split
    · exact .some (.some he.2)
    · exact ih
    · exact .none

theorem Related.insert? (h : Related K V es es') {k : κ} {k' : κ'} {v : ν} {v' : ν'} (hk : K k k')
    (hv : V v v') : Option.Rel (Related K V) (Entries.insert? same k v es)
      (Entries.insert? same' k' v' es') := by
  induction h with
  | nil => exact .some (.cons ⟨hk, hv⟩ .nil)
  | @cons e e' es es' he hes ih =>
    unfold Entries.insert?
    rw [hs he.1]
    split
    · exact .some (.cons ⟨he.1, hv⟩ hes)
    · generalize Entries.insert? same k v es = r at ih ⊢
      generalize Entries.insert? same' k' v' es' = r' at ih ⊢
      cases ih with
      | some hrest => exact .some (.cons he hrest)
      | none => exact .none
    · exact .none

end

end Related

theorem mem_keys_put {k k' : κ} {x : ν} (hk : k' ∈ (put hit k x es).map Prod.fst) :
    k' ∈ es.map Prod.fst ∨ k' = k := by
  rw [map_fst_put] at hk
  split at hk
  · exact .inl hk
  · simpa using hk

theorem mem_put {k : κ} {x : ν} (he : e ∈ put hit k x es) :
    e ∈ es ∨ e.2 = x ∧ (e.1 = k ∨ (∃ d ∈ es, d.1 = e.1) ∧ hit e.1 = true) := by
  induction es with
  | nil =>
    obtain rfl := List.mem_singleton.mp he
    exact .inr ⟨rfl, .inl rfl⟩
  | cons d es ih =>
    unfold put at he
    split at he
    · next hd =>
      rcases List.mem_cons.mp he with rfl | he
      · exact .inr ⟨rfl, .inr ⟨⟨d, List.mem_cons_self, rfl⟩, hd⟩⟩
      · exact .inl (List.mem_cons_of_mem _ he)
    · rcases List.mem_cons.mp he with rfl | he
      · exact .inl List.mem_cons_self
      · refine (ih he).imp (List.mem_cons_of_mem _) (And.imp_right (Or.imp_right (And.imp_left ?_)))
        rintro ⟨f, hf, hkey⟩
        exact ⟨f, List.mem_cons_of_mem _ hf, hkey⟩

section Table

variable [BEq κ]

def tabulate (defs : List (κ × ν)) : List (κ × ν) :=
  defs.foldl (fun es d => put (· == d.1) d.1 d.2 es) []

theorem tabulate_concat (defs : List (κ × ν)) (d : κ × ν) :
    tabulate (defs ++ [d]) = put (· == d.1) d.1 d.2 (tabulate defs) := by
  unfold tabulate
  rw [List.foldl_concat]

variable [LawfulBEq κ]

theorem mem_of_mem_tabulate {defs : List (κ × ν)} (he : e ∈ tabulate defs) : e ∈ defs := by
  induction defs using List.reverseRecOn with
  | nil => cases he
  | append_singleton defs d ih =>
    rw [tabulate_concat] at he
    rw [List.mem_append, List.mem_singleton]
    rcases mem_put he with he | ⟨hvalue, hkey⟩
    · exact .inl (ih he)
    · right
      rcases hkey with hkey | ⟨-, hkey⟩
      · exact Prod.ext hkey hvalue
      · exact Prod.ext (eq_of_beq hkey) hvalue

theorem get?_tabulate (defs : List (κ × ν)) (k : κ) :
    get? (· == k) (tabulate defs) = (defs.reverse.find? (·.1 == k)).map Prod.snd := by
  induction defs using List.reverseRecOn with
  | nil => rfl
  | append_singleton defs d ih =>
    rw [tabulate_concat, List.reverse_concat, List.find?_cons]
    by_cases hk : d.1 = k
    · subst hk
      have hput : get? (· == d.1) (put (· == d.1) d.1 d.2 (tabulate defs)) = some d.2 :=
        get?_put (beq_self_eq_true d.1)
      rw [hput, beq_self_eq_true]
      rfl
    · have hapart : (d.1 == k) = false := beq_eq_false_iff_ne.mpr hk
      have hput : get? (· == k) (put (· == d.1) d.1 d.2 (tabulate defs)) =
          get? (· == k) (tabulate defs) := get?_put_of_apart hapart (by simpa using hk)
      rw [hput, ih, hapart]

variable [DecidableEq κ]

theorem keys_tabulate (defs : List (κ × ν)) :
    ((tabulate defs).map Prod.fst).Nodup ∧
      ((tabulate defs).map Prod.fst).toFinset = (defs.map Prod.fst).toFinset := by
  induction defs using List.reverseRecOn with
  | nil => exact ⟨List.nodup_nil, rfl⟩
  | append_singleton defs d ih =>
    have hin : has (· == d.1) (tabulate defs) = true ↔ d.1 ∈ (tabulate defs).map Prod.fst := by
      simp [has_eq_any]
    rw [tabulate_concat, map_fst_put, List.map_append, List.toFinset_append, ← ih.2]
    split
    · next hmem =>
      refine ⟨ih.1, ?_⟩
      have hold := List.mem_toFinset.mpr (hin.mp hmem)
      exact (Finset.union_eq_left.mpr (Finset.singleton_subset_iff.mpr hold)).symm
    · next hnew =>
      rw [hin] at hnew
      refine ⟨?_, ?_⟩
      · exact List.nodup_append.mpr ⟨ih.1, List.nodup_singleton _, by
          rintro k hk _ hd rfl
          exact hnew (List.mem_singleton.mp hd ▸ hk)⟩
      · rw [List.toFinset_append]
        rfl

theorem length_tabulate (defs : List (κ × ν)) :
    (tabulate defs).length = (defs.map Prod.fst).toFinset.card := by
  obtain ⟨hnodup, hkeys⟩ := keys_tabulate defs
  rw [← hkeys, List.toFinset_card_of_nodup hnodup, List.length_map]

end Table

end LateBinding.Entries

namespace LateBinding

universe u v w

variable {α : Type u} {β : Type v} {γ : Type w} {R : α → β → Prop} {as : List α} {bs : List β}
  {a : α} {b : β}

theorem map_eq_of_forall₂ {f : α → γ} {g : β → γ} (h : List.Forall₂ R as bs)
    (hfg : ∀ a b, R a b → f a = g b) : as.map f = bs.map g := by
  rw [← List.forall₂_eq_eq_eq, List.forall₂_map_left_iff, List.forall₂_map_right_iff]
  exact h.imp hfg

theorem forall₂_comp {δ : Type w} {S : β → δ → Prop} {T : α → δ → Prop} {ds : List δ}
    (h : List.Forall₂ R as bs) (h' : List.Forall₂ S bs ds) (hT : ∀ a b d, R a b → S b d → T a d) :
    List.Forall₂ T as ds := by
  induction h generalizing ds with
  | nil =>
    cases h'
    exact .nil
  | cons hab _ ih =>
    cases h' with
    | cons hbd hrest => exact .cons (hT _ _ _ hab hbd) (ih hrest)

theorem getElem?_of_forall₂ (h : List.Forall₂ R as bs) (i : ℕ) : Option.Rel R as[i]? bs[i]? := by
  induction h generalizing i with
  | nil => exact .none
  | cons hab _ ih =>
    cases i with
    | zero => exact .some hab
    | succ i => exact ih i

theorem getD_of_rel {x : Option α} {y : Option β} (h : Option.Rel R x y) (hab : R a b) :
    R (x.getD a) (y.getD b) := by
  cases h with
  | some hxy => exact hxy
  | none => exact hab

theorem isSome_eq_of_rel {x : Option α} {y : Option β} (h : Option.Rel R x y) :
    x.isSome = y.isSome := by
  cases h <;> rfl

theorem eq_of_rel {x y : Option α} (h : Option.Rel Eq x y) : x = y := by
  cases h with
  | some h => rw [h]
  | none => rfl

theorem set_of_forall₂ (h : List.Forall₂ R as bs) (hab : R a b) (i : ℕ) :
    List.Forall₂ R (as.set i a) (bs.set i b) := by
  induction h generalizing i with
  | nil => exact .nil
  | cons hhead htail ih =>
    cases i with
    | zero => exact .cons hab htail
    | succ i => exact .cons hhead (ih i)

end LateBinding
