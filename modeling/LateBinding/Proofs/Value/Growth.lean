import LateBinding.Proofs.Machine.Contract
import LateBinding.Proofs.Value.Showing

/-! # Display on a heap that grows

As long as old contents stay, a value without cycles is displayed as before, however much comes to
the heap: what it shows lies at places that were there.
-/

namespace LateBinding.Heap

variable {h h' : Heap} {v p : Value} {a : Place} {r : ℕ} {o : Object}

namespace Grows

theorem places_subset (hg : h.Grows h') : h.places ⊆ h'.places := by
  have harrays := hg.arrays.length_le
  have hhashes := hg.hashes.length_le
  have hobjects := hg.objects.length_le
  simp only [Array.length_toList] at harrays hhashes hobjects
  refine Finset.union_subset_union (Finset.union_subset_union ?_ ?_) ?_ <;>
    exact Finset.image_subset_image (Finset.range_mono ‹_›)

theorem literal?_eq (hg : h.Grows h') (hv : ∀ a ∈ v.place?, a ∈ h.places)
    (text : Value → Option String) :
    h'.shown v = h.shown v ∧ h'.literal? text v = h.literal? text v := by
  cases v with
  | array r =>
    have heq := (hg.array_eq (r := r) (by simpa [places] using hv _ rfl)).2
    exact ⟨heq, by rw [literal?, literal?, heq]⟩
  | hash r =>
    have heq := hg.hash_eq (r := r) (by simpa [places] using hv _ rfl)
    exact ⟨by rw [shown, shown, heq], by rw [literal?, literal?, heq]⟩
  | object o =>
    have heq := hg.fields_eq (o := o) (by simpa [places] using hv _ rfl)
    exact ⟨by rw [shown, shown, heq], by rw [literal?, literal?, heq]⟩
  | proc p => exact ⟨rfl, by rw [literal?, literal?, inspectProc, inspectProc, hg.address]⟩
  | _ => exact ⟨rfl, rfl⟩

theorem showable (hg : h.Grows h') (hv : h.Showable v) : h'.Showable v := by
  induction hv with
  | intro stored _ ih =>
    refine .intro (fun a ha => hg.places_subset (stored a ha)) fun p hp => ih p ?_
    rwa [(hg.literal?_eq stored fun _ => none).1] at hp

theorem inspect?_eq (hg : h.Grows h') (hv : h.Showable v) : h'.inspect? v = h.inspect? v := by
  -- By induction on what the value shows.
  induction hv with
  | @intro v stored _ ih =>
    rw [Heap.inspect?_eq, Heap.inspect?_eq, (hg.literal?_eq stored _).2]
    exact literal?_congr ih

theorem display?_eq (hg : h.Grows h') (hv : h.Showable v) : h'.display? v = h.display? v := by
  have hinspect := hg.inspect?_eq hv
  cases v <;> first | rfl | exact hinspect

end Grows

end LateBinding.Heap
