import LateBinding.Proofs.Entries
import LateBinding.Proofs.Unrolling
import LateBinding.Proofs.Value.Nesting
import Mathlib.Data.Finset.Prod

/-! # Comparisons that end

What a value feeds to a hasher, and whether two values are equal, is told by one step from what
their parts feed and whether their parts are equal. There are no more containers, and no more pairs
of them, to come by than the heap has; so what has no answer never ends. Without cycles, and without
the hash that is held for writing, there always is one.
-/

namespace LateBinding.Heap

variable {h h' : Heap} {held held' : Option ℕ} {a b k v p key : Value} {entry : Value × Value}
  {answer : Bool} {feed feed' : Value → Option (List Feed)} {rel rel' : Value × Value → Option Bool}
  {fed : List Feed} {entries others : List (Value × Value)} {found : Option Value} {r : ℕ}

/-- Whoever reads the container finds the same in it, or waits for it in both heaps. -/
def ReadsAs (h : Heap) (held : Option ℕ) (h' : Heap) (held' : Option ℕ) : Value → Prop
  | .array r => h'.array r = h.array r
  | .hash r => h'.read? held' r = h.read? held r
  | _ => True

theorem ReadsAs.refl (h : Heap) (held : Option ℕ) (v : Value) : h.ReadsAs held h held v := by
  cases v <;> trivial

theorem read?_eq_some (hr : h.read? held r = some entries) :
    held ≠ some r ∧ entries = h.hash r := by
  unfold read? at hr
  split at hr
  · cases hr
  · next hne => exact ⟨hne, (Option.some.inj hr).symm⟩

theorem parts_of_not_mem_containers (hv : v ∉ h.containers) : h.parts v = [] := by
  cases v with
  | array r =>
    have hr : ¬ r < h.arrays.size := fun hr => hv (mem_containers hr rfl)
    simp [parts, array, hr]
  | hash r =>
    have hr : ¬ r < h.hashes.size := fun hr => hv (mem_containers hr rfl)
    simp [parts, hash, hr]
  | _ => rfl

theorem feedStep_eq (hv : h.ReadsAs held h' held' v) (hparts : ∀ p ∈ h.parts v, feed' p = feed p) :
    h'.feedStep held' feed' v = h.feedStep held feed v := by
  cases v with
  | array r =>
    have harray : h'.array r = h.array r := hv
    have hitems : ∀ p ∈ h.array r, feed' p = feed p := hparts
    rw [feedStep, feedStep, harray, mapM_congr hitems]
  | hash r =>
    have hread : h'.read? held' r = h.read? held r := hv
    rw [feedStep, feedStep, hread]
  | _ => rfl

theorem isSome_feedStep_array :
    (h.feedStep held feed (.array r)).isSome = true ↔ ∀ p ∈ h.array r, (feed p).isSome = true := by
  rw [feedStep, ← isSome_mapM]
  cases (h.array r).mapM feed <;> rfl

theorem refines_feedStep (hfeed : Refines feed feed') :
    Refines (h.feedStep held feed) (h.feedStep held feed') := by
  intro v fs hfs
  cases v with
  | array r =>
    have hitems := isSome_feedStep_array.mp (Option.isSome_iff_exists.mpr ⟨fs, hfs⟩)
    rw [← hfs]
    refine feedStep_eq (.refl h held _) fun p hp => ?_
    obtain ⟨ps, hps⟩ := Option.isSome_iff_exists.mp (hitems p hp)
    rw [hps, hfeed p ps hps]
  | _ => exact hfs

theorem feed?_eq (h : Heap) (held : Option ℕ) (v : Value) :
    h.feed? held v = h.feedStep held (h.feed? held) v := by
  have hleaf : ∀ v, id v ∉ h.containers → ∀ f g, h.feedStep held f v = h.feedStep held g v := by
    intro v hv f g
    have hnone : h.parts v = [] := parts_of_not_mem_containers hv
    exact feedStep_eq (.refl h held v) (by simp [hnone])
  have halike : ∀ f v w, id v = id w →
      (h.feedStep held f v).isSome = (h.feedStep held f w).isSome := by
    rintro f v _ rfl
    rfl
  exact
    (congrFun (step_unroll refines_feedStep id h.containers hleaf halike card_containers_le) v).symm

theorem Nested.isSome_feed? (hv : h.Nested v) (hheld : ∀ r ∈ held, ¬ h.Inside (.hash r) v) :
    (h.feed? held v).isSome = true := by
  induction hv with
  | @intro v _ _ ih =>
    rw [feed?_eq]
    cases v with
    | array r =>
      exact isSome_feedStep_array.mpr fun p hp => ih p hp fun r hr hin =>
        hheld r hr (hin.of_part hp)
    | hash r =>
      have hne : held ≠ some r := fun heq => hheld r heq (.refl h _)
      simp [feedStep, read?, hne]
    | _ => rfl

theorem isKey?_mono (hfeed : h'.feed? held' k = h.feed? held k)
    (hrel : rel (key, k) = some answer → rel' (key, k) = some answer)
    (hk : h.isKey? held rel key fed k = some answer) :
    h'.isKey? held' rel' key fed k = some answer := by
  unfold isKey? at hk ⊢
  rw [hfeed]
  by_cases hsame : h.feed? held k = some fed
  · rw [if_pos hsame] at hk ⊢
    exact hrel hk
  · rw [if_neg hsame] at hk ⊢
    exact hk

theorem lookUp?_mono (hkey : h'.feed? held' key = h.feed? held key)
    (hfeed : ∀ e ∈ entries, h'.feed? held' e.1 = h.feed? held e.1)
    (hrel : ∀ e ∈ entries, ∀ answer, rel (key, e.1) = some answer → rel' (key, e.1) = some answer)
    (hfound : h.lookUp? held rel key entries = some found) :
    h'.lookUp? held' rel' key entries = some found := by
  unfold lookUp? at hfound ⊢
  by_cases hsingle : entries.length ≤ 1
  · rw [if_pos hsingle] at hfound ⊢
    exact Entries.find?_mono hrel hfound
  · rw [if_neg hsingle] at hfound ⊢
    obtain ⟨fed, hfed, hfind⟩ := Option.bind_eq_some_iff.mp hfound
    rw [hkey, hfed]
    exact Entries.find?_mono (fun e he _ hk => isKey?_mono (hfeed e he) (hrel e he _) hk) hfind

theorem exists_of_lookUp? (hv : h.lookUp? held rel key entries = some (some v)) :
    ∃ e ∈ entries, rel (key, e.1) = some true ∧ e.2 = v := by
  unfold lookUp? at hv
  split at hv
  · obtain ⟨e, he, hk, rfl⟩ := Entries.exists_of_get? (Entries.find?_eq_some hv).symm
    exact ⟨e, he, eq_of_beq hk, rfl⟩
  · obtain ⟨fed, -, hfind⟩ := Option.bind_eq_some_iff.mp hv
    obtain ⟨e, he, hk, rfl⟩ := Entries.exists_of_get? (Entries.find?_eq_some hfind).symm
    have hk := eq_of_beq hk
    unfold isKey? at hk
    split at hk
    · exact ⟨e, he, hk, rfl⟩
    · cases hk

theorem isFound?_mono (hkey : h'.feed? held' entry.1 = h.feed? held entry.1)
    (hfeed : ∀ e ∈ others, h'.feed? held' e.1 = h.feed? held e.1)
    (hkeys : ∀ e ∈ others, ∀ answer, rel (entry.1, e.1) = some answer →
      rel' (entry.1, e.1) = some answer)
    (hvalues : ∀ e ∈ others, ∀ answer, rel (e.2, entry.2) = some answer →
      rel' (e.2, entry.2) = some answer)
    (hfound : h.isFound? held rel others entry = some answer) :
    h'.isFound? held' rel' others entry = some answer := by
  unfold isFound? at hfound ⊢
  obtain ⟨found, hlookUp, hvalue⟩ := Option.bind_eq_some_iff.mp hfound
  rw [lookUp?_mono hkey hfeed hkeys hlookUp]
  cases found with
  | none => exact hvalue
  | some v =>
    obtain ⟨e, he, -, rfl⟩ := exists_of_lookUp? hlookUp
    exact hvalues e he _ hvalue

/-- A step comes to the same where containers read the same, their parts feed the same, and all that
is known of the equality of their parts is known again. -/
theorem eqlStep_mono (ha : h.ReadsAs held h' held' a) (hb : h.ReadsAs held h' held' b)
    (hfeed : ∀ x, x ∈ h.parts a ∨ x ∈ h.parts b → h'.feed? held' x = h.feed? held x)
    (hrel : ∀ x ∈ h.parts a, ∀ y ∈ h.parts b, ∀ answer, rel (x, y) = some answer →
      rel' (x, y) = some answer)
    (hback : ∀ x ∈ h.parts a, ∀ y ∈ h.parts b, ∀ answer, rel (y, x) = some answer →
      rel' (y, x) = some answer)
    (hab : h.eqlStep held rel (a, b) = some answer) :
    h'.eqlStep held' rel' (a, b) = some answer := by
  cases a with
  | array r =>
    cases b with
    | array q =>
      have hr : h'.array r = h.array r := ha
      have hq : h'.array q = h.array q := hb
      simp only [eqlStep] at hab ⊢
      rw [hr, hq]
      by_cases hrq : r = q
      · rw [if_pos hrq] at hab ⊢
        exact hab
      rw [if_neg hrq] at hab ⊢
      by_cases hlength : (h.array r).length = (h.array q).length
      · rw [if_pos hlength] at hab ⊢
        refine all?_mono (fun p hp => ?_) hab
        obtain ⟨hx, hy⟩ := List.of_mem_zip hp
        exact hrel _ hx _ hy
      · rw [if_neg hlength] at hab ⊢
        exact hab
    | _ => exact hab
  | hash r =>
    cases b with
    | hash q =>
      have hr : h'.read? held' r = h.read? held r := ha
      have hq : h'.read? held' q = h.read? held q := hb
      simp only [eqlStep] at hab ⊢
      by_cases hrq : r = q
      · rw [if_pos hrq] at hab ⊢
        exact hab
      rw [if_neg hrq] at hab ⊢
      obtain ⟨entries, hentries, hab⟩ := Option.bind_eq_some_iff.mp hab
      obtain ⟨others, hothers, hab⟩ := Option.bind_eq_some_iff.mp hab
      rw [hr, hq, hentries, hothers]
      obtain ⟨-, rfl⟩ := read?_eq_some hentries
      obtain ⟨-, rfl⟩ := read?_eq_some hothers
      simp only [Option.bind_eq_bind, Option.bind_some] at hab ⊢
      by_cases hlength : (h.hash r).length = (h.hash q).length
      · rw [if_pos hlength] at hab ⊢
        refine all?_mono (fun e he _ => isFound?_mono ?_ ?_ ?_ ?_) hab
        · exact hfeed _ (.inl (key_mem_parts he))
        · exact fun d hd => hfeed _ (.inr (key_mem_parts hd))
        · exact fun d hd => hrel _ (key_mem_parts he) _ (key_mem_parts hd)
        · exact fun d hd => hback _ (value_mem_parts he) _ (value_mem_parts hd)
      · rw [if_neg hlength] at hab ⊢
        exact hab
    | _ => exact hab
  | _ => cases b <;> exact hab

theorem eqlStep_eq (ha : h.ReadsAs held h' held' a) (hb : h.ReadsAs held h' held' b)
    (hpa : h'.parts a = h.parts a) (hpb : h'.parts b = h.parts b)
    (hfeed : ∀ x, x ∈ h.parts a ∨ x ∈ h.parts b → h'.feed? held' x = h.feed? held x)
    (hrel : ∀ x ∈ h.parts a, ∀ y ∈ h.parts b, rel' (x, y) = rel (x, y) ∧ rel' (y, x) = rel (y, x)) :
    h'.eqlStep held' rel' (a, b) = h.eqlStep held rel (a, b) := by
  have hsymm : ∀ {v}, h.ReadsAs held h' held' v → h'.ReadsAs held' h held v := by
    intro v hv
    cases v with
    | array r | hash r => exact Eq.symm hv
    | _ => trivial
  refine Option.ext fun answer => ⟨?_, ?_⟩
  · refine eqlStep_mono (hsymm ha) (hsymm hb) (fun x hx => ?_) (fun x hx y hy _ h => ?_)
      fun x hx y hy _ h => ?_
    · exact (hfeed x (hpa ▸ hpb ▸ hx)).symm
    · exact (hrel x (hpa ▸ hx) y (hpb ▸ hy)).1 ▸ h
    · exact (hrel x (hpa ▸ hx) y (hpb ▸ hy)).2 ▸ h
  · refine eqlStep_mono ha hb hfeed (fun x hx y hy _ h => ?_) fun x hx y hy _ h => ?_
    · exact (hrel x hx y hy).1 ▸ h
    · exact (hrel x hx y hy).2 ▸ h

theorem refines_eqlStep (hrel : Refines rel rel') :
    Refines (h.eqlStep held rel) (h.eqlStep held rel') :=
  fun p _ => eqlStep_mono (.refl h held p.1) (.refl h held p.2) (fun _ _ => rfl)
    (fun _ _ _ _ => hrel _) fun _ _ _ _ => hrel _

theorem eql?_eq (h : Heap) (held : Option ℕ) (a b : Value) :
    h.eql? held a b = h.eqlStep held (fun p => h.eql? held p.1 p.2) (a, b) := by
  have hleaf : ∀ p, id p ∉ h.containers ×ˢ h.containers →
      ∀ f g, h.eqlStep held f p = h.eqlStep held g p := by
    rintro ⟨a, b⟩ hp f g
    rw [id, Finset.mem_product, not_and_or] at hp
    have hnone : h.parts a = [] ∨ h.parts b = [] :=
      hp.imp parts_of_not_mem_containers parts_of_not_mem_containers
    refine eqlStep_eq (.refl h held a) (.refl h held b) rfl rfl (fun _ _ => rfl) fun x hx y hy => ?_
    rcases hnone with hnone | hnone
    · simp [hnone] at hx
    · simp [hnone] at hy
  have halike : ∀ f p q, id p = id q →
      (h.eqlStep held f p).isSome = (h.eqlStep held f q).isSome := by
    rintro f p _ rfl
    rfl
  have hcard : (h.containers ×ˢ h.containers).card ≤ h.depth * h.depth := by
    rw [Finset.card_product]
    exact Nat.mul_le_mul card_containers_le card_containers_le
  exact (congrFun (step_unroll refines_eqlStep id _ hleaf halike hcard) (a, b)).symm

theorem isSome_isFound? (hkey : (h.feed? held entry.1).isSome = true)
    (hkeys : ∀ e ∈ others, (rel (entry.1, e.1)).isSome = true)
    (hvalues : ∀ e ∈ others, (rel (e.2, entry.2)).isSome = true) :
    (h.isFound? held rel others entry).isSome = true := by
  have hlookUp : (h.lookUp? held rel entry.1 others).isSome = true := by
    unfold lookUp?
    split
    · exact Entries.isSome_find? hkeys
    · obtain ⟨fed, hfed⟩ := Option.isSome_iff_exists.mp hkey
      rw [hfed]
      refine Entries.isSome_find? fun e he => ?_
      unfold isKey?
      split
      · exact hkeys e he
      · rfl
  obtain ⟨found, hfound⟩ := Option.isSome_iff_exists.mp hlookUp
  unfold isFound?
  rw [hfound]
  cases found with
  | none => rfl
  | some v =>
    obtain ⟨e, he, -, rfl⟩ := exists_of_lookUp? hfound
    exact hvalues e he

theorem isSome_eqlStep (ha : ∀ r ∈ held, a ≠ .hash r) (hb : ∀ r ∈ held, b ≠ .hash r)
    (hfeed : ∀ x ∈ h.parts a, (h.feed? held x).isSome = true)
    (hrel : ∀ x ∈ h.parts a, ∀ y ∈ h.parts b, (rel (x, y)).isSome = true ∧
      (rel (y, x)).isSome = true) :
    (h.eqlStep held rel (a, b)).isSome = true := by
  have hread : ∀ r, (∀ q ∈ held, Value.hash r ≠ .hash q) → h.read? held r = some (h.hash r) := by
    intro r hr
    unfold read?
    exact if_neg fun heq => hr r heq rfl
  cases a with
  | array r =>
    cases b with
    | array q =>
      simp only [eqlStep]
      split
      · rfl
      split
      · refine isSome_all? fun p hp => ?_
        obtain ⟨hx, hy⟩ := List.of_mem_zip hp
        exact (hrel _ hx _ hy).1
      · rfl
    | _ => rfl
  | hash r =>
    cases b with
    | hash q =>
      simp only [eqlStep, hread r ha, hread q hb, Option.bind_eq_bind, Option.bind_some]
      split
      · rfl
      split
      · refine isSome_all? fun e he => isSome_isFound? ?_ ?_ ?_
        · exact hfeed _ (key_mem_parts he)
        · exact fun d hd => (hrel _ (key_mem_parts he) _ (key_mem_parts hd)).1
        · exact fun d hd => (hrel _ (value_mem_parts he) _ (value_mem_parts hd)).2
      · rfl
    | _ => rfl
  | _ => cases b <;> rfl

theorem Nested.isSome_eql? (ha : h.Nested a) (hb : h.Nested b)
    (hheld : ∀ r ∈ held, ¬ h.Inside (.hash r) a) (hheld' : ∀ r ∈ held, ¬ h.Inside (.hash r) b) :
    (h.eql? held a b).isSome = true ∧ (h.eql? held b a).isSome = true := by
  induction ha generalizing b with
  | @intro a stored parts ih =>
    have ha : h.Nested a := .intro stored parts
    have hparts : ∀ x ∈ h.parts a, ∀ y ∈ h.parts b,
        (h.eql? held x y).isSome = true ∧ (h.eql? held y x).isSome = true := fun x hx y hy =>
      ih x hx (hb.part hy) (fun r hr hin => hheld r hr (hin.of_part hx)) fun r hr hin =>
        hheld' r hr (hin.of_part hy)
    have hna : ∀ r ∈ held, a ≠ .hash r := fun r hr heq => hheld r hr (heq ▸ .refl h a)
    have hnb : ∀ r ∈ held, b ≠ .hash r := fun r hr heq => hheld' r hr (heq ▸ .refl h b)
    rw [eql?_eq h held a b, eql?_eq h held b a]
    constructor
    · refine isSome_eqlStep hna hnb (fun x hx => ?_) hparts
      exact (ha.part hx).isSome_feed? fun r hr hin => hheld r hr (hin.of_part hx)
    · refine isSome_eqlStep hnb hna (fun y hy => ?_) fun y hy x hx => (hparts x hx y hy).symm
      exact (hb.part hy).isSome_feed? fun r hr hin => hheld' r hr (hin.of_part hy)

theorem Nested.eql?_eq_some (ha : h.Nested a) (hb : h.Nested b) :
    h.eql? none a b = some (h.eql a b) := by
  have hsome : (h.eql? none a b).isSome = true := (ha.isSome_eql? hb (by simp) (by simp)).1
  obtain ⟨answer, hanswer⟩ := Option.isSome_iff_exists.mp hsome
  rw [eql, hanswer]
  cases answer <;> rfl

theorem readsAs_of_not_held (hv : ∀ r ∈ held, v ≠ .hash r) : h.ReadsAs none h held v := by
  cases v with
  | hash r =>
    have hne : held ≠ some r := fun heq => hv r heq rfl
    simp [ReadsAs, read?, hne]
  | array r => rfl
  | _ => trivial

/-- A hash that is not inside a value may be held for all that the value feeds, and for all
comparisons of it. -/
theorem Nested.feed?_held (hv : h.Nested v) (hheld : ∀ r ∈ held, ¬ h.Inside (.hash r) v) :
    h.feed? held v = h.feed? none v := by
  induction hv with
  | @intro v _ _ ih =>
    rw [feed?_eq, feed?_eq h none]
    refine feedStep_eq (readsAs_of_not_held fun r hr heq => hheld r hr (heq ▸ .refl h v))
      fun p hp => ?_
    exact ih p hp fun r hr hin => hheld r hr (hin.of_part hp)

theorem Nested.eql?_held (ha : h.Nested a) (hb : h.Nested b)
    (hheld : ∀ r ∈ held, ¬ h.Inside (.hash r) a) (hheld' : ∀ r ∈ held, ¬ h.Inside (.hash r) b) :
    h.eql? held a b = h.eql? none a b ∧ h.eql? held b a = h.eql? none b a := by
  induction ha generalizing b with
  | @intro a stored parts ih =>
    have ha : h.Nested a := .intro stored parts
    have hpa : ∀ x ∈ h.parts a, ∀ r ∈ held, ¬ h.Inside (.hash r) x := fun x hx r hr hin =>
      hheld r hr (hin.of_part hx)
    have hpb : ∀ y ∈ h.parts b, ∀ r ∈ held, ¬ h.Inside (.hash r) y := fun y hy r hr hin =>
      hheld' r hr (hin.of_part hy)
    have hparts : ∀ x ∈ h.parts a, ∀ y ∈ h.parts b,
        h.eql? held x y = h.eql? none x y ∧ h.eql? held y x = h.eql? none y x := fun x hx y hy =>
      ih x hx (hb.part hy) (hpa x hx) (hpb y hy)
    have hfeed : ∀ x, x ∈ h.parts a ∨ x ∈ h.parts b → h.feed? held x = h.feed? none x := by
      rintro x (hx | hx)
      · exact (ha.part hx).feed?_held (hpa x hx)
      · exact (hb.part hx).feed?_held (hpb x hx)
    have hra : h.ReadsAs none h held a := readsAs_of_not_held fun r hr heq =>
      hheld r hr (heq ▸ .refl h a)
    have hrb : h.ReadsAs none h held b := readsAs_of_not_held fun r hr heq =>
      hheld' r hr (heq ▸ .refl h b)
    rw [eql?_eq h held a b, eql?_eq h none a b, eql?_eq h held b a, eql?_eq h none b a]
    constructor
    · exact eqlStep_eq hra hrb rfl rfl hfeed hparts
    · exact eqlStep_eq hrb hra rfl rfl (fun x hx => hfeed x hx.symm) fun y hy x hx =>
        (hparts x hx y hy).symm

end LateBinding.Heap
