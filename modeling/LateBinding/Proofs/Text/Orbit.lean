import LateBinding.Proofs.Text.Odometer
import Mathlib.Data.Prod.Lex
import Mathlib.Data.Set.Finite.Basic
import Mathlib.Order.Monotone.Basic

/-! # Successors of successors

Going on from a text never comes back: texts get longer, or else they come to have letters and
digits, or else the numeral that they show goes up. Without letters and digits that numeral is the
text itself, with all code points as its digits.
-/

namespace LateBinding.Successor

variable {c d : Char} {cs cs' : List Char}

/-- The numeral that code points are the digits of, read from right to left. -/
def weight : List Char → ℕ
  | [] => 0
  | c :: r => c.toNat + 0x110000 * weight r

/-- The next code point, or the first one behind the surrogates. -/
theorem toNat_of_nextScalar? (h : nextScalar? c = some d) :
    c.toNat = 0xd7ff ∧ d.toNat = 0xe000 ∨ d.toNat = c.toNat + 1 := by
  have hvalid : c.toNat < 0xd800 ∨ 0xdfff < c.toNat ∧ c.toNat < 0x110000 := c.valid
  unfold nextScalar? at h
  split_ifs at h with hgap hend
  · obtain rfl := Option.some.inj h
    exact .inl ⟨hgap, rfl⟩
  · obtain rfl := Option.some.inj h
    have hnext : (c.toNat + 1).isValidChar := by
      unfold Nat.isValidChar
      omega
    rw [Char.ofNat, dif_pos hnext]
    exact .inr rfl

theorem toNat_lt_of_nextScalar? (h : nextScalar? c = some d) : c.toNat < d.toNat := by
  have hnext := toNat_of_nextScalar? h
  omega

theorem toNat_of_nextScalar?_eq_none (h : nextScalar? c = none) : c.toNat = 0x10ffff := by
  unfold nextScalar? at h
  split_ifs at h with hgap hend
  exact hend

/-- Counting up takes one more code point, or shows a higher number with as many. -/
theorem countUp_cases (cs : List Char) : (countUp cs).length = cs.length + 1 ∨
    (countUp cs).length = cs.length ∧ weight cs < weight (countUp cs) := by
  induction cs with
  | nil => exact .inl rfl
  | cons c r ih =>
    unfold countUp
    cases h : nextScalar? c with
    | some d =>
      have hlt := toNat_lt_of_nextScalar? h
      right
      constructor
      · rfl
      · simp only [weight]
        omega
    | none =>
      have hend := toNat_of_nextScalar?_eq_none h
      rcases ih with hlength | ⟨hlength, hweight⟩
      · left
        simp [hlength]
      · right
        constructor
        · simp [hlength]
        · simp only [weight, hend]
          have hzero : (Char.ofNat 0).toNat = 0 := rfl
          omega

theorem any_eq_of_kinds (h : cs'.map kind? = cs.map kind?) : cs'.any isAlnum = cs.any isAlnum := by
  have hkinds : ∀ cs : List Char, cs.any isAlnum = (cs.map kind?).any Option.isSome := by
    intro cs
    rw [List.any_map]
    exact congrArg cs.any (funext fun c => isAlnum_eq)
  rw [hkinds, hkinds, h]

theorem wheels_eq_of_kinds (h : cs'.map kind? = cs.map kind?) : wheels cs' = wheels cs := by
  unfold wheels wheelsAfter
  rw [h]

theorem Lengthened.length (h : Lengthened cs cs') : cs'.length = cs.length + 1 := by
  obtain ⟨p, hp, -, k, -, rfl⟩ := h
  have hlt := lt_of_mem_wheelsAfter hp
  rw [List.length_insertIdx_of_le_length (by simpa using hlt.le), List.length_mapIdx]

theorem isAlnum_front (k : Kind) : isAlnum k.front = true := by
  cases k <;> decide

theorem Lengthened.any (h : Lengthened cs cs') : cs'.any isAlnum = true := by
  obtain ⟨p, hp, -, k, -, rfl⟩ := h
  have hlt := lt_of_mem_wheelsAfter hp
  rw [List.any_eq_true]
  exact ⟨k.front, (List.mem_insertIdx (by simpa using hlt.le)).mpr (.inl rfl), isAlnum_front k⟩

theorem any_succChars (h : cs.any isAlnum = true) : (succChars cs).any isAlnum = true := by
  rcases succChars_cases (List.any_eq_true.mp h) with ⟨-, hturned⟩ | ⟨-, hlengthened⟩
  · rw [any_eq_of_kinds hturned.kinds, h]
  · exact hlengthened.any

/-- The number that a text shows, with its wheels or else with all its code points as digits. -/
def shown (cs : List Char) : ℕ :=
  if cs.any isAlnum then reading cs (wheels cs) else weight cs.reverse

def height (cs : List Char) : ℕ ×ₗ Bool ×ₗ ℕ := toLex (cs.length, toLex (cs.any isAlnum, shown cs))

theorem height_lt_of_length (h : cs.length < cs'.length) : height cs < height cs' :=
  Prod.Lex.toLex_lt_toLex.mpr (.inl h)

theorem height_lt_of_any (h : cs'.length = cs.length) (hcs : cs.any isAlnum = false)
    (hcs' : cs'.any isAlnum = true) : height cs < height cs' := by
  apply Prod.Lex.toLex_lt_toLex.mpr
  right
  constructor
  · exact h.symm
  · apply Prod.Lex.toLex_lt_toLex.mpr
    left
    simp [hcs, hcs']

theorem height_lt_of_shown (h : cs'.length = cs.length) (hany : cs'.any isAlnum = cs.any isAlnum)
    (hshown : shown cs < shown cs') : height cs < height cs' := by
  apply Prod.Lex.toLex_lt_toLex.mpr
  right
  constructor
  · exact h.symm
  · exact Prod.Lex.toLex_lt_toLex.mpr (.inr ⟨hany.symm, hshown⟩)

theorem TurnedOn.height_lt (h : TurnedOn cs cs') (hcs : cs.any isAlnum = true) :
    height cs < height cs' := by
  have hany := any_eq_of_kinds h.kinds
  apply height_lt_of_shown h.length hany
  simp only [shown, hany, hcs, if_true, wheels_eq_of_kinds h.kinds, h.reading]
  omega

theorem height_lt_succChars (hne : cs ≠ []) : height cs < height (succChars cs) := by
  cases hany : cs.any isAlnum with
  | true =>
    rcases succChars_cases (List.any_eq_true.mp hany) with ⟨-, hturned⟩ | ⟨-, hlengthened⟩
    · exact hturned.height_lt hany
    · apply height_lt_of_length
      rw [hlengthened.length]
      omega
  | false =>
    have hsucc : succChars cs = (countUp cs.reverse).reverse := by
      simp only [succChars, hne, hany, if_false, Bool.false_eq_true]
    rw [hsucc]
    rcases countUp_cases cs.reverse with hlength | ⟨hlength, hweight⟩
    · apply height_lt_of_length
      simp [hlength]
    · have hsame : (countUp cs.reverse).reverse.length = cs.length := by
        simp [hlength]
      cases hany' : (countUp cs.reverse).reverse.any isAlnum with
      | true => exact height_lt_of_any hsame hany hany'
      | false =>
        apply height_lt_of_shown hsame (hany'.trans hany.symm)
        simpa [shown, hany, hany'] using hweight

theorem succChars_ne_nil (hne : cs ≠ []) : succChars cs ≠ [] := by
  intro hnil
  have hlt := height_lt_succChars hne
  rw [hnil] at hlt
  rcases Prod.Lex.toLex_lt_toLex.mp hlt with hlength | ⟨hlength, -⟩
  · simp at hlength
  · exact hne (List.length_eq_zero_iff.mp hlength)

variable {text : String}

theorem succ_ne_empty (h : text ≠ "") : succ text ≠ "" := by
  intro hempty
  have hnil : succChars text.toList = [] := by rw [← toList_succ, hempty]; rfl
  exact succChars_ne_nil (fun htext => h (String.toList_eq_nil_iff.mp htext)) hnil

theorem iterate_succ_ne_empty (h : text ≠ "") (n : ℕ) : succ^[n] text ≠ "" := by
  induction n with
  | zero => exact h
  | succ n ih =>
    rw [Function.iterate_succ_apply']
    exact succ_ne_empty ih

theorem strictMono_height (h : text ≠ "") : StrictMono fun n => height (succ^[n] text).toList := by
  apply strictMono_nat_of_lt_succ
  intro n
  rw [Function.iterate_succ_apply', toList_succ]
  apply height_lt_succChars
  rw [ne_eq, String.toList_eq_nil_iff]
  exact iterate_succ_ne_empty h n

theorem iterate_succ_injective (h : text ≠ "") : Function.Injective fun n => succ^[n] text := by
  intro i j hij
  exact (strictMono_height h).injective (congrArg (fun t : String => height t.toList) hij)

theorem any_iterate_succ {i j : ℕ} (hij : i ≤ j) (h : (succ^[i] text).toList.any isAlnum = true) :
    (succ^[j] text).toList.any isAlnum = true := by
  induction hij with
  | refl => exact h
  | step _ ih =>
    rw [Function.iterate_succ_apply', toList_succ]
    exact any_succChars ih

/-- A text that is not empty goes on and on without coming back. It may come to have letters and
digits, and then keeps to having some. -/
theorem successors_differ (text : String) (h : text ≠ "") :
    (∀ i j, i < j → succ^[i] text ≠ succ^[j] text) ∧ succ text ≠ text ∧
      (Set.range fun n => succ^[n] text).Infinite ∧
      (∀ i j, i ≤ j → (succ^[i] text).toList.any isAlnum = true →
        (succ^[j] text).toList.any isAlnum = true) ∧
      ∃ bare : String, bare.toList.any isAlnum = false ∧ (succ bare).toList.any isAlnum = true := by
  have hinjective := iterate_succ_injective h
  refine ⟨fun i j hij heq => ?_, fun heq => ?_, ?_, fun i j => any_iterate_succ, ?_⟩
  · exact hij.ne (hinjective heq)
  · exact one_ne_zero (@hinjective 1 0 heq)
  · exact Set.infinite_range_of_injective hinjective
  · exact ⟨"/", by decide +kernel, by decide +kernel⟩

/-- From a stroke on through the digits to the longer texts. -/
theorem successors_differ_stroke :
    "/" ≠ "" ∧ succ^[1] "/" = "0" ∧ succ^[11] "/" = "10" ∧
    (Set.range fun n => succ^[n] "/").Infinite := by
  have hne : "/" ≠ "" := by decide
  exact ⟨hne, by decide +kernel, by decide +kernel, (successors_differ "/" hne).2.2.1⟩

end LateBinding.Successor
