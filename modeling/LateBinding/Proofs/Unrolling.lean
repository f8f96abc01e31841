import LateBinding.Unrolling
import Mathlib.Data.Finset.Card

/-! # A depth that is enough

A step goes on to more when it is told more. Unrolled once more, the recursion then answers whatever
it answered before. When it can only come by finitely many places, and what it is told decides
nothing elsewhere, it gets to know nothing more once it has been unrolled as often as there are
places: unrolled so far, it answers what one step makes of its answers, so that where it has none it
never ends.
-/

namespace LateBinding

universe u v w

variable {ι : Type u} {β : Type v} {κ : Type w} {f g : ι → Option β}
  {step : (ι → Option β) → ι → Option β} {n m : ℕ} {i : ι} {b : β}

section Lists

variable {α : Type w} {as : List α} {f g : α → Option β}

theorem mapM_some (g : α → β) (as : List α) : as.mapM (fun a => some (g a)) = some (as.map g) :=
  List.mapM_pure

theorem isSome_mapM : (as.mapM f).isSome = true ↔ ∀ a ∈ as, (f a).isSome = true := by
  induction as with
  | nil => simp
  | cons a as ih =>
    rw [List.forall_mem_cons, ← ih, List.mapM_cons]
    cases f a <;> cases as.mapM f <;> simp

theorem mapM_eq_of_forall₂ {α' : Type u} {as' : List α'} {g : α' → Option β}
    (h : List.Forall₂ (fun a a' => f a = g a') as as') : as.mapM f = as'.mapM g := by
  induction h with
  | nil => rfl
  | cons hhead _ ih => rw [List.mapM_cons, List.mapM_cons, hhead, ih]

theorem rel_mapM {α' : Type u} {β' : Type v} {Q : β → β' → Prop} {as' : List α'}
    {g : α' → Option β'} (h : List.Forall₂ (fun a a' => Option.Rel Q (f a) (g a')) as as') :
    Option.Rel (List.Forall₂ Q) (as.mapM f) (as'.mapM g) := by
  induction h with
  | nil => exact .some .nil
  | @cons a a' as as' hhead _ ih =>
    rw [List.mapM_cons, List.mapM_cons]
    generalize f a = b at hhead ⊢
    generalize g a' = b' at hhead ⊢
    generalize as.mapM f = bs at ih ⊢
    generalize as'.mapM g = bs' at ih ⊢
    cases hhead with
    | none => exact .none
    | some hb =>
      cases ih with
      | none => exact .none
      | some hbs => exact .some (.cons hb hbs)

theorem mapM_congr (hfg : ∀ a ∈ as, f a = g a) : as.mapM f = as.mapM g :=
  mapM_eq_of_forall₂ (List.forall₂_same.mpr hfg)

variable {test test' : α → Option Bool} {answer : Bool}

theorem all?_of_ends {p : α → Bool} (hc : ∀ a ∈ as, test a = some (p a)) :
    all? test as = some (as.all p) := by
  induction as with
  | nil => rfl
  | cons a as ih =>
    rw [all?, hc a List.mem_cons_self, List.all_cons]
    cases p a with
    | true => exact ih fun x hx => hc x (List.mem_cons_of_mem _ hx)
    | false => rfl

theorem all?_eq_of_forall₂ {α' : Type w} {as' : List α'} {other : α' → Option Bool}
    (h : List.Forall₂ (fun a a' => test a = other a') as as') : all? test as = all? other as' := by
  induction h with
  | nil => rfl
  | cons hhead _ ih => rw [all?, all?, hhead, ih]

theorem isSome_all? (hc : ∀ a ∈ as, (test a).isSome = true) : (all? test as).isSome = true := by
  rw [all?_of_ends (p := fun a => (test a).getD false) fun a ha => ?_, Option.isSome_some]
  obtain ⟨b, hb⟩ := Option.isSome_iff_exists.mp (hc a ha)
  rw [hb, Option.getD_some]

theorem all?_eq_true : all? test as = some true ↔ ∀ a ∈ as, test a = some true := by
  induction as with
  | nil => simp [all?]
  | cons a as ih =>
    rw [all?, List.forall_mem_cons, ← ih]
    split
    · next h => simp [h]
    · next h => exact ⟨fun htrue => absurd htrue h, fun htrue => absurd htrue.1 h⟩

theorem all?_mono (hc : ∀ a ∈ as, ∀ b, test a = some b → test' a = some b)
    (h : all? test as = some answer) : all? test' as = some answer := by
  induction as with
  | nil => exact h
  | cons a as ih =>
    have hhead := hc a List.mem_cons_self
    unfold all? at h ⊢
    split at h
    · next ha =>
      rw [hhead _ ha]
      exact ih (fun x hx => hc x (List.mem_cons_of_mem _ hx)) h
    · next ha =>
      rw [hhead _ h]
      cases answer with
      | true => exact absurd h ha
      | false => rfl

end Lists

/-- Two recursions whose steps keep to a relation, and begin with no answers that are in it, never
leave it. -/
theorem unroll_rel {ι' : Type w} {β' : Type v} {step' : (ι' → Option β') → ι' → Option β'}
    {R : ι → ι' → Prop} {P : Option β → Option β' → Prop} (hnone : P none none)
    (hstep : ∀ f g, (∀ i j, R i j → P (f i) (g j)) → ∀ i j, R i j → P (step f i) (step' g j))
    (n : ℕ) {i : ι} {j : ι'} (hij : R i j) : P (unroll step n i) (unroll step' n j) := by
  induction n generalizing i j with
  | zero => exact hstep _ _ (fun _ _ _ => hnone) i j hij
  | succ n ih => exact hstep _ _ (fun _ _ h => ih h) i j hij

/-- The second recursion answers whatever the first one answers. -/
def Refines (f g : ι → Option β) : Prop := ∀ i b, f i = some b → g i = some b

section

variable (hstep : ∀ {f g : ι → Option β}, Refines f g → Refines (step f) (step g))

include hstep

theorem refines_unroll_succ (n : ℕ) : Refines (unroll step n) (unroll step (n + 1)) := by
  induction n with
  | zero => exact hstep fun _ _ h => nomatch h
  | succ n ih => exact hstep ih

variable (place : ι → κ) (K : Finset κ) (hleaf : ∀ i, place i ∉ K → ∀ f g, step f i = step g i)
  (halike : ∀ f i j, place i = place j → (step f i).isSome = (step f j).isSome)

open Classical in
noncomputable def answered (step : (ι → Option β) → ι → Option β) (place : ι → κ)
    (K : Finset κ) (n : ℕ) : Finset κ :=
  K.filter fun k => ∃ i, place i = k ∧ (unroll step n i).isSome = true

open Classical in
omit hstep in
theorem mem_answered {k : κ} :
    k ∈ answered step place K n ↔ k ∈ K ∧ ∃ i, place i = k ∧ (unroll step n i).isSome = true :=
  Finset.mem_filter

theorem answered_subset : answered step place K n ⊆ answered step place K (n + 1) := by
  intro k hk
  obtain ⟨hmem, i, hi, hsome⟩ := (mem_answered place K).mp hk
  obtain ⟨b, hb⟩ := Option.isSome_iff_exists.mp hsome
  have hnext := refines_unroll_succ hstep n i b hb
  exact (mem_answered place K).mpr ⟨hmem, i, hi, Option.isSome_iff_exists.mpr ⟨b, hnext⟩⟩

include hleaf halike

theorem unroll_succ_of_answered_eq (h : answered step place K (n + 1) = answered step place K n) :
    unroll step (n + 1) = unroll step n := by
  have hunroll : ∀ k, ∃ f, unroll step k = step f := by
    intro k
    cases k with
    | zero => exact ⟨_, rfl⟩
    | succ k => exact ⟨_, rfl⟩
  funext i
  by_cases hi : place i ∈ K
  · cases hn : unroll step n i with
    | some b => exact refines_unroll_succ hstep n i b hn
    | none =>
      rw [← Option.not_isSome_iff_eq_none]
      intro hsome
      have hmem : place i ∈ answered step place K (n + 1) :=
        (mem_answered place K).mpr ⟨hi, i, rfl, hsome⟩
      rw [h] at hmem
      obtain ⟨-, j, hj, hjsome⟩ := (mem_answered place K).mp hmem
      obtain ⟨f, hf⟩ := hunroll n
      rw [hf, halike f j i hj, ← hf, hn] at hjsome
      cases hjsome
  · obtain ⟨f, hf⟩ := hunroll n
    obtain ⟨g, hg⟩ := hunroll (n + 1)
    rw [hf, hg]
    exact hleaf i hi g f

/-- Each time that the recursion is unrolled, a place is added or no answer will be added any
more. -/
theorem unroll_succ_or_lt_card (n : ℕ) :
    unroll step (n + 1) = unroll step n ∨ n < (answered step place K (n + 1)).card := by
  induction n with
  | zero =>
    by_cases h : answered step place K 1 = answered step place K 0
    · exact .inl (unroll_succ_of_answered_eq hstep place K hleaf halike h)
    · have hlt := Finset.card_lt_card ((answered_subset hstep place K).ssubset_of_ne (Ne.symm h))
      exact .inr (by omega)
  | succ n ih =>
    rcases ih with hstable | hcard
    · exact .inl (congrArg step hstable)
    · by_cases h : answered step place K (n + 2) = answered step place K (n + 1)
      · exact .inl (unroll_succ_of_answered_eq hstep place K hleaf halike h)
      · have hlt := Finset.card_lt_card ((answered_subset hstep place K).ssubset_of_ne (Ne.symm h))
        exact .inr (by omega)

/-- As many steps as there are places are enough. -/
theorem step_unroll (hn : K.card ≤ n) : step (unroll step n) = unroll step n := by
  change unroll step (n + 1) = unroll step n
  rcases unroll_succ_or_lt_card hstep place K hleaf halike n with hstable | hcard
  · exact hstable
  · have hsub : answered step place K (n + 1) ⊆ K := fun k hk => ((mem_answered place K).mp hk).1
    have hle := Finset.card_le_card hsub
    omega

end

end LateBinding
