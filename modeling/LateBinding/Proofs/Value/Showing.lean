import LateBinding.Proofs.Unrolling
import LateBinding.Proofs.Value.Nesting
import LateBinding.Value.Display
import Mathlib.Data.Finset.Image
import Mathlib.Logic.Relation

/-! # Display without cycles

Display looks into containers and, other than equality, into the fields of objects. Inside a value
that does not hold itself each level leaves one place of the heap behind, so that the depth which
display stops at cuts nothing off, and an object is shown with what its fields are shown as.
-/

namespace LateBinding

inductive Place
  | array (r : ℕ)
  | hash (r : ℕ)
  | object (r : ℕ)
  deriving DecidableEq

def Value.place? : Value → Option Place
  | .array r => some (.array r)
  | .hash r => some (.hash r)
  | .object o => some (.object o.ref)
  | _ => none

variable {h : Heap} {v w p : Value} {o : Object} {S : Finset Place} {a : Place} {n k : ℕ}

namespace Heap

def shown (h : Heap) : Value → List Value
  | .array r => h.array r
  | .hash r => (h.hash r).flatMap fun e => [e.1, e.2]
  | .object o => (h.fields o).map Prod.snd
  | _ => []

def ShownIn (h : Heap) (p v : Value) : Prop := p ∈ h.shown v

theorem shown_eq (hvw : v.place? = w.place?) : h.shown v = h.shown w := by
  cases v with
  | object o =>
    cases w with
    | object o' =>
      have href : o.ref = o'.ref := Place.object.inj (Option.some.inj hvw)
      simp only [shown, fields, href]
    | _ => cases hvw
  | _ => cases w <;> cases hvw <;> rfl

def places (h : Heap) : Finset Place :=
  (Finset.range h.arrays.size).image .array ∪ (Finset.range h.hashes.size).image .hash ∪
    (Finset.range h.objects.size).image .object

theorem card_places_le : h.places.card ≤ h.depth := by
  have harrays := (Finset.range h.arrays.size).card_image_le (f := Place.array)
  have hhashes := (Finset.range h.hashes.size).card_image_le (f := Place.hash)
  have hobjects := (Finset.range h.objects.size).card_image_le (f := Place.object)
  rw [Finset.card_range] at harrays hhashes hobjects
  have hunion := Finset.card_union_le
    ((Finset.range h.arrays.size).image Place.array ∪ (Finset.range h.hashes.size).image .hash)
    ((Finset.range h.objects.size).image .object)
  have hunion' := Finset.card_union_le ((Finset.range h.arrays.size).image Place.array)
    ((Finset.range h.hashes.size).image .hash)
  unfold places depth
  omega

/-- Everything that is shown inside leads into the heap. The values that hold themselves are left
out, since the relation is the least one. -/
inductive Showable (h : Heap) : Value → Prop
  | intro {v : Value} (stored : ∀ a ∈ v.place?, a ∈ h.places) (parts : ∀ p ∈ h.shown v,
    Showable h p) : Showable h v

theorem Showable.of_flat (hv : v.place? = none) : h.Showable v := by
  refine .intro (by simp [hv]) fun p hp => ?_
  cases v with
  | array r | hash r | object o => cases hv
  | _ => cases hp

theorem Showable.stored (hv : h.Showable v) (ha : v.place? = some a) : a ∈ h.places := by
  cases hv with
  | intro stored _ => exact stored a ha

theorem Showable.part (hv : h.Showable v) (hp : h.ShownIn p v) : h.Showable p := by
  cases hv with
  | intro _ parts => exact parts p hp

theorem Showable.inside (hv : h.Showable v) (hw : Relation.ReflTransGen h.ShownIn w v) :
    h.Showable w := by
  induction hw using Relation.ReflTransGen.head_induction_on with
  | refl => exact hv
  | head hp _ ih => exact ih.part hp

theorem Showable.nested (hv : h.Showable v) : h.Nested v := by
  induction hv with
  | @intro v stored _ ih =>
    refine .intro ?_ fun p hp => ih p ?_
    · cases v with
      | array r | hash r => simpa [places, Stored] using stored _ rfl
      | _ => trivial
    · cases v with
      | array r | hash r => exact hp
      | _ => cases hp

theorem mem_of_inside {vs : List Value} (hparts : ∀ w ∈ vs, ∀ p ∈ h.shown w, p ∈ vs) (hv : v ∈ vs)
    (hw : Relation.ReflTransGen h.ShownIn w v) : w ∈ vs := by
  induction hw using Relation.ReflTransGen.head_induction_on with
  | refl => exact hv
  | head hp _ ih => exact hparts _ ih _ hp

theorem Showable.not_inside_itself (hv : h.Showable v) : ¬ Relation.TransGen h.ShownIn v v := by
  induction hv with
  | @intro v _ _ ih =>
    intro hvv
    obtain ⟨p, hvp, hp⟩ := Relation.TransGen.tail'_iff.mp hvv
    exact ih p hp (Relation.TransGen.head' hp hvp)

theorem showable_of_acyclic (hS : ∀ w a, Relation.ReflTransGen h.ShownIn w v →
    w.place? = some a → a ∈ S)
    (hstored : ∀ w, Relation.ReflTransGen h.ShownIn w v → ∀ a ∈ w.place?, a ∈ h.places)
    (hv : ∀ w, Relation.ReflTransGen h.ShownIn w v → ¬ Relation.TransGen h.ShownIn w w) :
    h.Showable v := by
  -- By induction on the number of places: a part that led back to the place of the value would be
  -- inside itself.
  induction hn : S.card generalizing S v with
  | zero =>
    refine .of_flat (Option.eq_none_iff_forall_ne_some.mpr fun a ha => ?_)
    have hmem := hS v a .refl ha
    rw [Finset.card_eq_zero.mp hn] at hmem
    cases hmem
  | succ n ih =>
    cases hplace : v.place? with
    | none => exact .of_flat hplace
    | some a =>
      have hmem := hS v a .refl hplace
      refine .intro (hstored v .refl) fun p hp => ih (S := S.erase a) (fun w b hw hb => ?_)
        (fun w hw => hstored w (hw.tail hp)) (fun w hw => hv w (hw.tail hp)) ?_
      · refine Finset.mem_erase.mpr ⟨?_, hS w b (hw.tail hp) hb⟩
        rintro rfl
        have hpw : h.ShownIn p w := by
          unfold ShownIn
          rwa [shown_eq (hb.trans hplace.symm)]
        exact hv p (.single hp) (Relation.TransGen.head' hpw hw)
      · rw [Finset.card_erase_of_mem hmem, hn]
        rfl

/-- A value whose parts are stored is showable unless one of them holds itself. -/
theorem showable_iff : h.Showable v ↔ ∀ w, Relation.ReflTransGen h.ShownIn w v →
    (∀ a ∈ w.place?, a ∈ h.places) ∧ ¬ Relation.TransGen h.ShownIn w w := by
  constructor
  · exact fun hv w hw => ⟨fun _ ha => (hv.inside hw).stored ha, (hv.inside hw).not_inside_itself⟩
  · exact fun hv => showable_of_acyclic (fun w a hw ha => (hv w hw).1 a ha)
      (fun w hw => (hv w hw).1) fun w hw => (hv w hw).2

def literal (h : Heap) (text : Value → String) (v : Value) : String :=
  (h.literal? (fun p => some (text p)) v).getD ""

theorem literal_array (h : Heap) (text : Value → String) (r : ℕ) : h.literal text (.array r) =
    "[" ++ commaList ((h.array r).map text) ++ "]" := by
  simp [literal, literal?, mapM_some]

theorem literal_hash (h : Heap) (text : Value → String) (r : ℕ) : h.literal text (.hash r) =
    "\x7b" ++ commaList ((h.hash r).map fun e => text e.1 ++ " => " ++ text e.2) ++ "\x7d" := by
  simp [literal, literal?, mapM_some]

theorem literal_object (h : Heap) (text : Value → String) (o : Object) :
    h.literal text (.object o) =
    objectText o.cls.name ((h.fields o).map fun e => (e.1.name, text e.2)) := by
  simp [literal, literal?, mapM_some]

theorem literal?_some (h : Heap) (text : Value → String) (v : Value) :
    h.literal? (fun p => some (text p)) v = some (h.literal text v) := by
  cases v <;> simp [literal, literal?, mapM_some]

section Texts

variable {f g : Value → Option String}

/-- Only the texts of what is shown play a part. -/
theorem literal?_congr (hfg : ∀ p ∈ h.shown v, f p = g p) : h.literal? f v = h.literal? g v := by
  cases v with
  | array r =>
    have hitems : ∀ p ∈ h.array r, f p = g p := hfg
    rw [literal?, literal?, mapM_congr hitems]
  | hash r =>
    rw [literal?, literal?, mapM_congr fun e he => ?_]
    dsimp only
    rw [hfg e.1 (List.mem_flatMap.mpr ⟨e, he, by simp⟩),
      hfg e.2 (List.mem_flatMap.mpr ⟨e, he, by simp⟩)]
  | object o =>
    rw [literal?, literal?, mapM_congr fun e he => ?_]
    dsimp only
    rw [hfg e.2 (List.mem_map_of_mem he)]
  | _ => rfl

theorem isSome_literal? :
    (h.literal? f v).isSome = true ↔ ∀ p ∈ h.shown v, (f p).isSome = true := by
  have hmap {α β : Type} (x : Option α) (k : α → β) :
      (x >>= fun a => pure (k a)).isSome = x.isSome := by
    cases x <;> rfl
  cases v with
  | array r => rw [literal?, hmap, isSome_mapM, shown]
  | hash r =>
    have hentry : ∀ e : Value × Value,
        (do return (← f e.1) ++ " => " ++ (← f e.2) : Option String).isSome = true ↔
          (f e.1).isSome = true ∧ (f e.2).isSome = true := by
      intro e
      cases f e.1 <;> cases f e.2 <;> simp
    rw [literal?, hmap, isSome_mapM, shown]
    simp only [hentry, List.mem_flatMap, List.mem_cons, List.not_mem_nil, or_false]
    grind
  | object o =>
    rw [literal?, hmap, isSome_mapM, shown]
    simp only [hmap, List.forall_mem_map]
  | _ => simp [literal?, shown]

theorem refines_literal? (hfg : Refines f g) : Refines (h.literal? f) (h.literal? g) := by
  intro v s hs
  have hparts := isSome_literal?.mp (Option.isSome_iff_exists.mpr ⟨s, hs⟩)
  rw [← hs]
  refine literal?_congr fun p hp => ?_
  obtain ⟨t, ht⟩ := Option.isSome_iff_exists.mp (hparts p hp)
  rw [ht, hfg p t ht]

end Texts

theorem shown_of_not_mem (hv : ∀ a ∈ v.place?, a ∉ h.places) : h.shown v = [] := by
  cases v with
  | array r =>
    have hr : ¬ r < h.arrays.size := by simpa [places] using hv _ rfl
    simp [shown, array, hr]
  | hash r =>
    have hr : ¬ r < h.hashes.size := by simpa [places] using hv _ rfl
    simp [shown, hash, hr]
  | object o =>
    have ho : ¬ o.ref < h.objects.size := by simpa [places] using hv _ rfl
    simp [shown, fields, ho]
  | _ => rfl

/-- The literal form of a value is made of those of what it shows. -/
theorem inspect?_eq (h : Heap) (v : Value) : h.inspect? v = h.literal? h.inspect? v := by
  have hleaf : ∀ v, v.place? ∉ h.places.image some → ∀ f g, h.literal? f v = h.literal? g v := by
    intro v hv f g
    have hnone : h.shown v = [] := shown_of_not_mem fun a ha hmem =>
      hv (ha ▸ Finset.mem_image_of_mem some hmem)
    exact literal?_congr (by simp [hnone])
  have halike : ∀ f v w, v.place? = w.place? →
      (h.literal? f v).isSome = (h.literal? f w).isSome := by
    intro f v w hvw
    rw [Bool.eq_iff_iff, isSome_literal?, isSome_literal?, shown_eq hvw]
  have hcard : (h.places.image some).card ≤ h.depth := Finset.card_image_le.trans h.card_places_le
  exact (congrFun (step_unroll refines_literal? Value.place? _ hleaf halike hcard) v).symm

/-- A value has a literal form unless one can go on and on in what it shows. -/
theorem isSome_inspect? : (h.inspect? v).isSome = true ↔ Acc h.ShownIn v := by
  constructor
  · have hacc : ∀ n v, (unroll h.literal? n v).isSome = true → Acc h.ShownIn v := by
      intro n
      induction n with
      | zero =>
        exact fun v hv => ⟨v, fun p hp => absurd (isSome_literal?.mp hv p hp) Bool.false_ne_true⟩
      | succ n ih => exact fun v hv => ⟨v, fun p hp => ih p (isSome_literal?.mp hv p hp)⟩
    exact hacc h.depth v
  · intro hv
    induction hv with
    | intro v _ ih => rw [inspect?_eq, isSome_literal?]; exact ih

/-- A value that holds itself has none. -/
theorem inspect?_eq_none (hv : Relation.TransGen h.ShownIn v v) : h.inspect? v = none := by
  rw [← Option.not_isSome_iff_eq_none, isSome_inspect?]
  intro hacc
  have hinside := hacc.transGen
  clear hacc
  induction hinside with
  | intro v _ ih => exact ih v hv hv

def inspect (h : Heap) (v : Value) : String := (h.inspect? v).getD ""

theorem Showable.acc (hv : h.Showable v) : Acc h.ShownIn v := by
  induction hv with
  | intro _ _ ih => exact ⟨_, ih⟩

theorem Showable.inspect?_eq_some (hv : h.Showable v) : h.inspect? v = some (h.inspect v) := by
  obtain ⟨text, htext⟩ := Option.isSome_iff_exists.mp (isSome_inspect?.mpr hv.acc)
  rw [inspect, htext, Option.getD_some]

theorem Showable.exists_display (hv : h.Showable v) : ∃ text, h.display? v = some text := by
  have hinspect := hv.inspect?_eq_some
  cases v <;> first | exact ⟨_, rfl⟩ | exact ⟨_, hinspect⟩

theorem Showable.inspect_eq (hv : h.Showable v) : h.inspect v = h.literal h.inspect v := by
  have hparts : h.literal? h.inspect? v = h.literal? (fun p => some (h.inspect p)) v :=
    literal?_congr fun p hp => (hv.part hp).inspect?_eq_some
  rw [inspect, inspect?_eq, hparts, literal?_some, Option.getD_some]

theorem Showable.inspect_object (hv : h.Showable (.object o)) : h.inspect (.object o) =
    objectText o.cls.name ((h.fields o).map fun e => (e.1.name, h.inspect e.2)) := by
  rw [hv.inspect_eq, literal_object]

end Heap

end LateBinding
