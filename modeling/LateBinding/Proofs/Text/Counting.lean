import LateBinding.Method.String
import LateBinding.Proofs.Text.Orbit
import LateBinding.Proofs.Text.Order
import Mathlib.Order.Cover

/-! # Counting up to the next text

Without letters and digits, the last character that is not the greatest one goes up to the next, and
those behind it start over. Nothing of the same length lies between a text and this one. A text of
greatest characters only gets longer.
-/

namespace LateBinding.Successor

def least : Char := Char.ofNat 0

def greatest : Char := Char.ofNat 0x10ffff

variable {c d : Char} {cs front t ys : List Char} {k : ℕ}

theorem toNat_greatest : greatest.toNat = 0x10ffff := rfl

theorem least_le (c : Char) : ¬ c < least := Nat.not_lt_zero c.toNat

theorem le_greatest (c : Char) : ¬ greatest < c := by
  have hlt := TextOrder.toNat_lt c
  change ¬ greatest.toNat < c.toNat
  rw [toNat_greatest]
  omega

theorem nextScalar?_greatest : nextScalar? greatest = none := rfl

theorem exists_nextScalar? (h : c ≠ greatest) : ∃ d, nextScalar? c = some d := by
  cases hd : nextScalar? c with
  | some d => exact ⟨d, rfl⟩
  | none => exact absurd (Char.toNat_inj.mp (toNat_of_nextScalar?_eq_none hd)) h

/-- No code point lies between, not even where the surrogates are left out. -/
theorem covBy_of_nextScalar? (h : nextScalar? c = some d) : c ⋖ d := by
  refine ⟨toNat_lt_of_nextScalar? h, fun x hcx hxd => ?_⟩
  replace hcx : c.toNat < x.toNat := hcx
  replace hxd : x.toNat < d.toNat := hxd
  have hvalid : x.toNat < 0xd800 ∨ 0xdfff < x.toNat ∧ x.toNat < 0x110000 := x.valid
  have hnext := toNat_of_nextScalar? h
  omega

theorem countUp_carried (k : ℕ) (r : List Char) :
    countUp (List.replicate k greatest ++ r) = List.replicate k least ++ countUp r := by
  induction k with
  | zero => rfl
  | succ k ih => simp [List.replicate_succ, countUp, nextScalar?_greatest, ih, least]

theorem succChars_carried (hne : cs ≠ []) (hbare : cs.any isAlnum = false)
    (hcs : cs = front ++ List.replicate k greatest) :
    succChars cs = (countUp front.reverse).reverse ++ List.replicate k least := by
  simp only [succChars, hne, hbare, if_false, Bool.false_eq_true]
  rw [hcs, List.reverse_append, List.reverse_replicate, countUp_carried, List.reverse_append,
    List.reverse_replicate]

theorem exists_carried (cs : List Char) : (∀ c ∈ cs, c = greatest) ∨
    ∃ front c k, c ≠ greatest ∧ cs = front ++ c :: List.replicate k greatest := by
  induction cs using List.reverseRecOn with
  | nil => simp
  | append_singleton cs x ih =>
    by_cases hx : x = greatest
    · subst hx
      rcases ih with hall | ⟨front, c, k, hc, rfl⟩
      · left
        simpa [or_imp, forall_and] using hall
      · right
        exact ⟨front, c, k + 1, hc, by simp [List.replicate_succ']⟩
    · right
      exact ⟨cs, x, 0, hx, rfl⟩

theorem not_replicate_greatest_lt (h : ys.length = k) : ¬ List.replicate k greatest < ys := by
  induction k generalizing ys with
  | zero =>
    obtain rfl := List.length_eq_zero_iff.mp h
    exact List.not_lt_nil _
  | succ k ih =>
    cases ys with
    | nil => cases h
    | cons y ys =>
      rw [List.replicate_succ, List.cons_lt_cons_iff]
      rintro (hlt | ⟨-, hlt⟩)
      · exact le_greatest y hlt
      · exact ih (Nat.succ.inj h) hlt

theorem not_lt_replicate_least (h : ys.length = k) : ¬ ys < List.replicate k least := by
  induction k generalizing ys with
  | zero => exact List.not_lt_nil _
  | succ k ih =>
    cases ys with
    | nil => cases h
    | cons y ys =>
      rw [List.replicate_succ, List.cons_lt_cons_iff]
      rintro (hlt | ⟨-, hlt⟩)
      · exact least_le y hlt
      · exact ih (Nat.succ.inj h) hlt

theorem lt_carried (h : c < d) (front : List Char) :
    front ++ c :: List.replicate k greatest < front ++ d :: List.replicate k least := by
  induction front with
  | nil => exact List.cons_lt_cons_iff.mpr (.inl h)
  | cons x front ih => exact List.cons_lt_cons_iff.mpr (.inr ⟨rfl, ih⟩)

theorem not_lt_carried (h : c ⋖ d) (hlength : t.length =
    (front ++ c :: List.replicate k greatest).length)
    (ht : front ++ c :: List.replicate k greatest < t) :
    ¬ t < front ++ d :: List.replicate k least := by
  -- By induction on what both have in front: a greater text differs there, or goes up where the
  -- carry ends.
  induction front generalizing t with
  | nil =>
    cases t with
    | nil => cases hlength
    | cons x ys =>
      have hys : ys.length = k := by simpa using hlength
      rw [List.nil_append, List.cons_lt_cons_iff] at ht ⊢
      have hcx : c < x := ht.resolve_right fun hrest => not_replicate_greatest_lt hys hrest.2
      rintro (hxd | ⟨-, hlt⟩)
      · exact h.2 hcx hxd
      · exact not_lt_replicate_least hys hlt
  | cons y front ih =>
    cases t with
    | nil => cases hlength
    | cons x ys =>
      rw [List.cons_append, List.cons_lt_cons_iff] at ht ⊢
      rcases ht with hyx | ⟨rfl, ht⟩
      · rintro (hxy | ⟨rfl, -⟩)
        · exact lt_asymm hyx hxy
        · exact lt_irrefl _ hyx
      · rintro (hlt | ⟨-, hlt⟩)
        · exact lt_irrefl _ hlt
        · exact ih (by simpa using hlength) ht hlt

variable {text : String}

theorem isLeast_carried (h : c ⋖ d) (htext : text.toList = front ++ c :: List.replicate k greatest)
    (hsucc : (succ text).toList = front ++ d :: List.replicate k least) :
    IsLeast {t : String | t.length = text.length ∧ text < t} (succ text) := by
  constructor
  · constructor
    · rw [← String.length_toList, ← String.length_toList, htext, hsucc]
      simp
    · rw [String.lt_iff_toList_lt, htext, hsucc]
      exact lt_carried h.1 front
  · rintro t ⟨hlength, ht⟩
    rw [← not_lt, String.lt_iff_toList_lt, hsucc]
    rw [String.lt_iff_toList_lt, htext] at ht
    rw [← String.length_toList, ← String.length_toList, htext] at hlength
    exact not_lt_carried h hlength ht

/-- Without letters and digits, the successor is the least greater text of the same length. One of
greatest characters only gets longer instead. -/
theorem succ_isLeast (text : String) (hne : text ≠ "")
    (hbare : ∀ c ∈ text.toList, isAlnum c = false) : ((∃ c ∈ text.toList, c ≠ greatest) →
      IsLeast {t : String | t.length = text.length ∧ text < t} (succ text) ∧
      TextOrder.compare text (succ text) = .lt ∧
      (∀ send id id' keywords,
        StringMethod.compare.run send (.string ⟨id, succ text⟩) ⟨[.string ⟨id', text⟩], keywords⟩ =
          pure (Eval.integer 1)) ∧
      ∀ front, text = front ++ "\ud7ff" → succ text = front ++ "\ue000") ∧
    ((∀ c ∈ text.toList, c = greatest) →
      (succ text).toList = Char.ofNat 1 :: List.replicate text.length least) := by
  have hnil : text.toList ≠ [] := by simpa using hne
  have hany : text.toList.any isAlnum = false := by simpa using hbare
  constructor
  · rintro ⟨x, hx, hne⟩
    obtain ⟨front, c, k, hc, htext⟩ := (exists_carried text.toList).resolve_left fun hall =>
      hne (hall x hx)
    obtain ⟨d, hd⟩ := exists_nextScalar? hc
    have hsucc : (succ text).toList = front ++ d :: List.replicate k least := by
      rw [toList_succ, succChars_carried hnil hany (htext.trans (List.append_cons ..))]
      simp [countUp, hd]
    have hleast := isLeast_carried (covBy_of_nextScalar? hd) htext hsucc
    have hcompare := TextOrder.compare_eq_lt_iff.mpr hleast.1.2
    refine ⟨hleast, hcompare, fun send id id' keywords => ?_, ?_⟩
    · have hrun : StringMethod.compare.run send (.string ⟨id, succ text⟩) ⟨[.string ⟨id', text⟩],
          keywords⟩ = pure (Eval.ordering (TextOrder.compare (succ text) text)) := rfl
      rw [hrun, ← TextOrder.compare_swap, hcompare]
      rfl
    · rintro front rfl
      have hfront : (front ++ "\ud7ff").toList = (front.toList ++ ['\ud7ff']) ++
          List.replicate 0 greatest := by
        simp
      have hgap : nextScalar? '\ud7ff' = some '\ue000' := rfl
      rw [← String.toList_inj, toList_succ, succChars_carried hnil hany hfront]
      simp [countUp, hgap]
  · intro hall
    have htext : text.toList = [] ++ List.replicate text.length greatest := by
      rw [List.nil_append, ← String.length_toList]
      exact List.eq_replicate_of_mem hall
    rw [toList_succ, succChars_carried hnil hany htext]
    rfl

/-- The carry passes a greatest character and leaps over the surrogates. -/
theorem succ_isLeast_gap :
    let text := String.ofList ['-', '\ud7ff', greatest]
    text ≠ "" ∧ (∀ c ∈ text.toList, isAlnum c = false) ∧ (∃ c ∈ text.toList, c ≠ greatest) ∧
      succ text = String.ofList ['-', '\ue000', least] ∧
      IsLeast {t : String | t.length = text.length ∧ text < t} (succ text) ∧
      (succ (String.ofList [greatest])).toList = [Char.ofNat 1, least] := by
  intro text
  have bare_of_all : ∀ t : String, t.toList.all (!isAlnum ·) = true →
      ∀ c ∈ t.toList, isAlnum c = false :=
    fun t h c hc => by simpa using List.all_eq_true.mp h c hc
  have hne : text ≠ "" := by decide +kernel
  have hbare : ∀ c ∈ text.toList, isAlnum c = false := bare_of_all text (by decide +kernel)
  have hless : ∃ c ∈ text.toList, c ≠ greatest := ⟨'-', by decide +kernel, by decide⟩
  refine ⟨hne, hbare, hless, by decide +kernel, ((succ_isLeast text hne hbare).1 hless).1, ?_⟩
  exact (succ_isLeast (String.ofList [greatest]) (by decide +kernel)
    (bare_of_all _ (by decide +kernel))).2 (by simp)

end LateBinding.Successor
