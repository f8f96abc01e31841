import LateBinding.Value.Equality
import Mathlib.Data.Finset.Card
import Mathlib.Data.Finset.Image
import Mathlib.Logic.Relation

/-! # Values without cycles

A value is nested when each reference inside it leads into the heap and no container inside it holds
itself. It has at most as many levels as the heap has containers, so the depth that equality and
display stop at cuts nothing off. A sound value is nested, and no two keys of a hash inside it are
equal.
-/

namespace LateBinding

variable {h : Heap} {v p : Value} {n m : ℕ}

def Value.isContainer : Value → Bool
  | .array _ | .hash _ => true
  | _ => false

namespace Heap

/-- What equality looks at inside a value. Objects are compared by identity, whatever their fields
hold. -/
def parts (h : Heap) : Value → List Value
  | .array r => h.array r
  | .hash r => (h.hash r).flatMap fun e => [e.1, e.2]
  | _ => []

theorem key_mem_parts {r : ℕ} {e : Value × Value} (he : e ∈ h.hash r) :
    e.1 ∈ h.parts (.hash r) := by
  refine List.mem_flatMap.mpr ⟨e, he, ?_⟩
  simp

theorem value_mem_parts {r : ℕ} {e : Value × Value} (he : e ∈ h.hash r) :
    e.2 ∈ h.parts (.hash r) := by
  refine List.mem_flatMap.mpr ⟨e, he, ?_⟩
  simp

theorem parts_of_flat (hv : v.isContainer = false) : h.parts v = [] := by
  cases v with
  | array r => cases hv
  | hash r => cases hv
  | _ => rfl

def Stored (h : Heap) : Value → Prop
  | .array r => r < h.arrays.size
  | .hash r => r < h.hashes.size
  | _ => True

/-- Stored at every depth. The values that hold themselves are left out, since the relation is the
least one. -/
inductive Nested (h : Heap) : Value → Prop
  | intro {v : Value} (stored : h.Stored v) (parts : ∀ p ∈ h.parts v, Nested h p) : Nested h v

def Levels (h : Heap) : ℕ → Value → Prop
  | 0, v => v.isContainer = false
  | n + 1, v => ∀ p ∈ h.parts v, h.Levels n p

theorem Levels.of_flat (hv : v.isContainer = false) : ∀ n, h.Levels n v
  | 0 => hv
  | _ + 1 => by simp [Levels, parts_of_flat hv]

theorem Levels.mono (hv : h.Levels n v) (hnm : n ≤ m) : h.Levels m v := by
  induction n generalizing v m with
  | zero => exact .of_flat hv m
  | succ n ih =>
    obtain ⟨m, rfl⟩ : ∃ k, m = k + 1 := ⟨m - 1, by omega⟩
    exact fun p hp => ih (hv p hp) (by omega)

def PartOf (h : Heap) (p v : Value) : Prop := p ∈ h.parts v

def Inside (h : Heap) (c v : Value) : Prop := Relation.ReflTransGen h.PartOf c v

theorem Inside.refl (h : Heap) (v : Value) : h.Inside v v := Relation.ReflTransGen.refl

theorem Inside.of_part {c : Value} (hc : h.Inside c p) (hp : p ∈ h.parts v) : h.Inside c v :=
  Relation.ReflTransGen.tail hc hp

theorem Nested.part (hv : h.Nested v) (hp : p ∈ h.parts v) : h.Nested p := by
  cases hv with
  | intro _ parts => exact parts p hp

theorem Nested.not_inside_itself (hv : h.Nested v) : ¬ Relation.TransGen h.PartOf v v := by
  induction hv with
  | @intro v _ _ ih =>
    intro hvv
    obtain ⟨p, hvp, hp⟩ := Relation.TransGen.tail'_iff.mp hvv
    exact ih p hp (Relation.TransGen.head' hp hvp)

def containers (h : Heap) : Finset Value :=
  (Finset.range h.arrays.size).image .array ∪ (Finset.range h.hashes.size).image .hash

theorem card_containers_le : h.containers.card ≤ h.depth := by
  have ha := (Finset.range h.arrays.size).card_image_le (f := Value.array)
  have hh := (Finset.range h.hashes.size).card_image_le (f := Value.hash)
  have hu := Finset.card_union_le ((Finset.range h.arrays.size).image Value.array)
    ((Finset.range h.hashes.size).image Value.hash)
  rw [Finset.card_range] at ha hh
  unfold containers depth
  omega

theorem mem_containers (hv : h.Stored v) (hc : v.isContainer = true) : v ∈ h.containers := by
  unfold containers
  cases v with
  | array r =>
    have hr : r < h.arrays.size := hv
    simpa using hr
  | hash r =>
    have hr : r < h.hashes.size := hv
    simpa using hr
  | _ => cases hc

open Classical in
noncomputable def inside (h : Heap) (v : Value) : Finset Value :=
  h.containers.filter fun c => Relation.ReflTransGen h.PartOf c v

open Classical in
theorem mem_inside {c : Value} :
    c ∈ h.inside v ↔ c ∈ h.containers ∧ Relation.ReflTransGen h.PartOf c v :=
  Finset.mem_filter

theorem Nested.mem_inside_self (hv : h.Nested v) (hc : v.isContainer = true) : v ∈ h.inside v := by
  cases hv with
  | intro stored _ => exact mem_inside.mpr ⟨mem_containers stored hc, .refl⟩

theorem inside_ssubset (hv : h.Nested v) (hc : v.isContainer = true) (hp : p ∈ h.parts v) :
    h.inside p ⊂ h.inside v := by
  refine (Finset.ssubset_iff_of_subset ?_).mpr ⟨v, hv.mem_inside_self hc, ?_⟩
  · intro c hcp
    obtain ⟨hcont, hreach⟩ := mem_inside.mp hcp
    exact mem_inside.mpr ⟨hcont, hreach.tail hp⟩
  · intro hvp
    exact hv.not_inside_itself (Relation.TransGen.tail' (mem_inside.mp hvp).2 hp)

/-- Each step inwards leaves a container behind, so their number bounds the levels. -/
theorem Nested.levels_inside (hv : h.Nested v) : h.Levels (h.inside v).card v := by
  induction hv with
  | @intro v stored parts ih =>
    cases hc : v.isContainer with
    | false => exact .of_flat hc _
    | true =>
      have hnested : h.Nested v := .intro stored parts
      have hless : ∀ p ∈ h.parts v, (h.inside p).card < (h.inside v).card := fun p hp =>
        Finset.card_lt_card (inside_ssubset hnested hc hp)
      obtain ⟨n, hn⟩ : ∃ n, (h.inside v).card = n + 1 :=
        Nat.exists_eq_succ_of_ne_zero (Finset.card_ne_zero_of_mem (hnested.mem_inside_self hc))
      rw [hn]
      intro p hp
      have hlt := hless p hp
      exact (ih p hp).mono (by omega)

theorem Nested.levels (hv : h.Nested v) : h.Levels h.depth v :=
  hv.levels_inside.mono ((Finset.card_le_card
    fun _ hc => (mem_inside.mp hc).1).trans card_containers_le)

/-- A container is one of the heap, and a hash has no key equal to an earlier one. -/
def Proper (h : Heap) : Value → Prop
  | .array r => r < h.arrays.size
  | .hash r => r < h.hashes.size ∧ (h.hash r).Pairwise fun d e => h.eql d.1 e.1 = false
  | _ => True

instance decidableProper (h : Heap) : (v : Value) → Decidable (h.Proper v)
  | .array _ => inferInstanceAs (Decidable (_ < _))
  | .hash _ => inferInstanceAs (Decidable (_ ∧ _))
  | .nil | .bool _ | .integer _ | .float _ | .string _ | .symbol _ | .regexp
    _ | .matched _ | .proc _
  | .object _ => isTrue trivial

theorem proper_of_flat (hv : v.isContainer = false) : h.Proper v := by
  cases v with
  | array r => cases hv
  | hash r => cases hv
  | _ => trivial

/-- Proper at every depth. The values that hold themselves are left out, since the relation is the
least one. -/
inductive Sound (h : Heap) : Value → Prop
  | intro {v : Value} (proper : h.Proper v) (parts : ∀ p ∈ h.parts v, Sound h p) : Sound h v

def FitsIn (h : Heap) : ℕ → Value → Prop
  | 0, v => v.isContainer = false
  | n + 1, v => h.Proper v ∧ ∀ p ∈ h.parts v, h.FitsIn n p

instance decidableFitsIn (h : Heap) : (n : ℕ) → (v : Value) → Decidable (h.FitsIn n v)
  | 0, _ => inferInstanceAs (Decidable (_ = _))
  | n + 1, v =>
    have := h.decidableFitsIn n
    inferInstanceAs (Decidable (_ ∧ ∀ p ∈ h.parts v, h.FitsIn n p))

theorem FitsIn.sound (hv : h.FitsIn n v) : h.Sound v := by
  induction n generalizing v with
  | zero => exact .intro (proper_of_flat hv) (by simp [parts_of_flat hv])
  | succ n ih => exact .intro hv.1 fun p hp => ih (hv.2 p hp)

theorem Proper.stored (hv : h.Proper v) : h.Stored v := by
  cases v with
  | hash r => exact hv.1
  | array r => exact hv
  | _ => trivial

theorem Sound.nested (hv : h.Sound v) : h.Nested v := by
  induction hv with
  | intro proper _ ih => exact .intro proper.stored ih

theorem FitsIn.nested (hv : h.FitsIn n v) : h.Nested v := hv.sound.nested

theorem Sound.fitsIn_of_levels (hv : h.Sound v) (hn : h.Levels n v) : h.FitsIn n v := by
  induction n generalizing v with
  | zero => exact hn
  | succ n ih =>
    obtain ⟨proper, parts⟩ := hv
    exact ⟨proper, fun p hp => ih (parts p hp) (hn p hp)⟩

theorem Sound.fitsIn (hv : h.Sound v) : h.FitsIn h.depth v := hv.fitsIn_of_levels hv.nested.levels

theorem sound_iff_fitsIn : h.Sound v ↔ h.FitsIn h.depth v := ⟨Sound.fitsIn, FitsIn.sound⟩

instance decidableSound (h : Heap) (v : Value) : Decidable (h.Sound v) :=
  decidable_of_iff _ sound_iff_fitsIn.symm

end Heap

end LateBinding
