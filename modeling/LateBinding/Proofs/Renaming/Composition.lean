import LateBinding.Proofs.Renaming.Machine

/-! # Renamings one after the other

Two renamings with a table between them make one of the outer tables: whatever stands for the same
thing in the middle stands for each other. Where procs lie in memory is left to the machines, which
may be moved together.
-/

namespace LateBinding

namespace Renaming

variable {ρ σ : Renaming}

/-- The renaming from the first table of one to the second of another. -/
def comp (ρ σ : Renaming) : Renaming where
  left := ρ.left
  right := σ.right
  canonical_left := ρ.canonical_left
  canonical_right := σ.canonical_right
  tag_left := ρ.tag_left
  tag_right := σ.tag_right

section Between

variable (hmid : ρ.right = σ.left)

include hmid

/-- Symbols with one identity in the middle are alike or of no table of the two. -/
theorem Pairs.comp_of_id {s a b t : Symbol} (hs : ρ.Pairs s a) (ht : σ.Pairs b t)
    (hab : a.id = b.id) : (ρ.comp σ).Pairs s t ∨ s.id = t.id ∧ s.id.table ≠ 0 := by
  cases hs with
  | own left right name =>
    cases ht with
    | own left' right' name' =>
      have hsame := (σ.canonical_left.same_iff (hmid ▸ right) left').mp (beq_iff_eq.mpr hab)
      exact .inl (.own left right' (name.trans (hsame.trans name')))
    | foreign table =>
      rw [← hab, ρ.canonical_right.table_of_mem right] at table
      exact absurd ρ.tag_right table
  | foreign table =>
    cases ht with
    | own left' right' name' =>
      rw [hab, σ.canonical_left.table_of_mem left'] at table
      exact absurd σ.tag_left table
    | foreign _ => exact .inr ⟨hab, table⟩

theorem Pairs.comp {s a t : Symbol} (hs : ρ.Pairs s a) (ht : σ.Pairs a t) :
    (ρ.comp σ).Pairs s t := by
  rcases hs.comp_of_id hmid ht rfl with hpairs | ⟨-, htable⟩
  · exact hpairs
  · cases hs with
    | own left _ _ => exact absurd ((ρ.canonical_left.table_of_mem left).trans ρ.tag_left) htable
    | foreign _ =>
      cases ht with
      | own left _ _ => exact absurd ((σ.canonical_left.table_of_mem left).trans σ.tag_left) htable
      | foreign _ => exact .foreign htable

theorem Bodies.comp {b c d : ProcBody} (hb : ρ.Bodies b c) (hd : σ.Bodies c d) :
    (ρ.comp σ).Bodies b d := by
  cases hb with
  | send name =>
    cases hd with
    | send name' => exact .send (name.comp hmid name')
  | block b =>
    cases hd with
    | block _ => exact .block b

theorem Values.comp {u v w : Value} (hu : ρ.Values u v) (hw : σ.Values v w) :
    (ρ.comp σ).Values u w := by
  cases hu with
  | symbol pairs =>
    cases hw with
    | symbol pairs' => exact .symbol (pairs.comp hmid pairs')
  | proc id bodies isLambda =>
    cases hw with
    | proc _ bodies' _ => exact .proc id (bodies.comp hmid bodies') isLambda
  | object ref pairs =>
    cases hw with
    | object _ pairs' => exact .object ref (pairs.comp hmid pairs')
  | _ =>
    cases hw
    constructor

theorem Items.comp {us vs ws : List Value} (hu : ρ.Items us vs) (hw : σ.Items vs ws) :
    (ρ.comp σ).Items us ws :=
  forall₂_comp hu hw fun _ _ _ hv hv' => hv.comp hmid hv'

theorem Heaps.comp {h₁ h₂ h₃ : Heap} (h : ρ.Heaps h₁ h₂) (h' : σ.Heaps h₂ h₃) :
    (ρ.comp σ).Heaps h₁ h₃ where
  arrays := forall₂_comp h.arrays h'.arrays fun _ _ _ hu hw => Items.comp hmid hu hw
  hashes := forall₂_comp h.hashes h'.hashes fun _ _ _ hes hes' =>
    forall₂_comp hes hes' fun _ _ _ he he' => ⟨he.1.comp hmid he'.1, he.2.comp hmid he'.2⟩
  objects := forall₂_comp h.objects h'.objects fun _ _ _ hes hes' =>
    forall₂_comp hes hes' fun _ _ _ he he' => ⟨he.1.comp hmid he'.1, he.2.comp hmid he'.2⟩
  names := by
    refine forall₂_comp h.names h'.names ?_
    rintro e f g ⟨⟨s, a, hs, hse, haf⟩, hef⟩ ⟨⟨b, t, ht, hbf, htg⟩, hfg⟩
    refine ⟨?_, hef.trans hfg⟩
    rcases hs.comp_of_id hmid ht (haf.trans hbf.symm) with hpairs | ⟨hid, htable⟩
    · exact ⟨s, t, hpairs, hse, htg⟩
    · exact ⟨s, s, .foreign htable, hse, hid.trans htg⟩
  texts := h.texts.trans h'.texts
  next := h.next.trans h'.next
  address := h.address.trans h'.address

end Between

variable {m₁ m₂ m₃ m m' : Machine}

theorem Machines.comp (h : ρ.Machines m₁ m₂) (h' : σ.Machines m₂ m₃) :
    (ρ.comp σ).Machines m₁ m₃ := by
  have hmid : ρ.right = σ.left := h.right.symm.trans h'.left
  exact {
    left := h.left
    right := h'.right
    methods := forall₂_comp h.methods h'.methods fun _ _ _ he he' =>
      ⟨⟨he.1.1.comp hmid he'.1.1, he.1.2.comp hmid he'.1.2⟩, he.2.trans he'.2⟩
    objectClass := h.objectClass.comp hmid h'.objectClass
    heap := h.heap.comp hmid h'.heap
    lastMatch := h.lastMatch.comp hmid h'.lastMatch
    users := h.users.trans h'.users
    groups := h.groups.trans h'.groups }

end Renaming

/-- The machine with its procs at these addresses. -/
def Machine.placed (m : Machine) (address : ℕ → ℕ) : Machine :=
  { m with heap := { m.heap with address := address } }

theorem Renaming.Machines.placed {ρ : Renaming} {m m' : Machine} (h : ρ.Machines m m')
    (address : ℕ → ℕ) : ρ.Machines (m.placed address) (m'.placed address) :=
  { h with heap := { h.heap with address := rfl } }

end LateBinding
