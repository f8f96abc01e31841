import LateBinding.Number.Shortest
import Mathlib.Algebra.Order.Field.Power
import Mathlib.Algebra.Order.Field.Rat
import Mathlib.Tactic.FieldSimp
import Mathlib.Tactic.Linarith
import Mathlib.Tactic.NormNum
import Mathlib.Tactic.Ring

/-! # The value of the shortest decimal

The shortest decimal of a binary number lies within half a unit of its last binary place, since the
decimals that are accepted do. So it has a negative exponent when the number is no integer; and none
when the last place is a whole one, since the number itself is then on the grid of the ones, where
the search ends at the latest.
-/

namespace LateBinding

def Decimal.value (d : Decimal) : ℚ := d.digits * 10 ^ d.exponent

theorem Decimal.value_of_nonneg {d : Decimal} (h : 0 ≤ d.exponent) :
    d.value = (d.digits * 10 ^ d.exponent.toNat : ℕ) := by
  rw [value, Nat.cast_mul, Nat.cast_pow, Nat.cast_ofNat, ← zpow_natCast, Int.toNat_of_nonneg h]

namespace Shortest

theorem scaleUp_eq (base : ℕ) (hbase : base ≠ 0) (e : ℤ) :
    (scaleUp base e : ℚ) = base ^ e * scaleUp base (-e) := by
  have hcast : (base : ℚ) ≠ 0 := Nat.cast_ne_zero.mpr hbase
  have hsplit : (base : ℚ) ^ e = base ^ e.toNat / base ^ (-e).toNat := by
    conv_lhs => rw [← Int.toNat_sub_toNat_neg e, zpow_sub₀ hcast, zpow_natCast, zpow_natCast]
  have hpos : (base : ℚ) ^ (-e).toNat ≠ 0 := pow_ne_zero _ hcast
  simp only [scaleUp, Nat.pow_eq, Nat.cast_pow]
  rw [hsplit, div_mul_cancel₀ _ hpos]

theorem scaleUp_of_nonneg {e : ℤ} (base : ℕ) (he : 0 ≤ e) : (scaleUp base e : ℚ) = base ^ e := by
  rw [scaleUp, Nat.pow_eq, Nat.cast_pow, ← zpow_natCast, Int.toNat_of_nonneg he]

theorem scaleUp_pos {base : ℕ} (hbase : base ≠ 0) (e : ℤ) : 0 < scaleUp base e :=
  Nat.pow_pos (Nat.pos_of_ne_zero hbase)

namespace Target

variable {t : Target} {k : ℤ} {n grids x : ℕ}

def value (t : Target) : ℚ := t.m * 2 ^ t.q

/-- The factor that makes quarters of the last binary place and tens to the `k` whole. -/
def factor (t : Target) (k : ℤ) : ℕ := scaleUp 2 (2 - t.q) * scaleUp 10 (-k)

theorem factor_pos (t : Target) (k : ℤ) : 0 < t.factor k :=
  Nat.mul_pos (scaleUp_pos (by decide) _) (scaleUp_pos (by decide) _)

theorem cast_quarters (t : Target) (k : ℤ) (x : ℕ) :
    (t.quarters k x : ℚ) = x * 2 ^ (t.q - 2) * t.factor k := by
  have htwo := scaleUp_eq 2 (by decide) (t.q - 2)
  rw [neg_sub] at htwo
  simp only [quarters, factor, Nat.cast_mul, htwo, Nat.cast_ofNat]
  ring

theorem cast_tens (t : Target) (k : ℤ) (n : ℕ) : (t.tens k n : ℚ) = n * 10 ^ k * t.factor k := by
  have hten := scaleUp_eq 10 (by decide) k
  simp only [tens, factor, Nat.cast_mul, hten, Nat.cast_ofNat]
  ring

theorem tens_le_quarters_iff :
    t.tens k n ≤ t.quarters k x ↔ (n : ℚ) * 10 ^ k ≤ x * 2 ^ (t.q - 2) := by
  have hpos : (0 : ℚ) < t.factor k := Nat.cast_pos.mpr (t.factor_pos k)
  rw [← Nat.cast_le (α := ℚ), cast_tens, cast_quarters, mul_le_mul_iff_left₀ hpos]

theorem quarters_le_tens_iff :
    t.quarters k x ≤ t.tens k n ↔ (x : ℚ) * 2 ^ (t.q - 2) ≤ n * 10 ^ k := by
  have hpos : (0 : ℚ) < t.factor k := Nat.cast_pos.mpr (t.factor_pos k)
  rw [← Nat.cast_le (α := ℚ), cast_tens, cast_quarters, mul_le_mul_iff_left₀ hpos]

theorem bounds_of_accepts (h : t.accepts k n = true) :
    t.quarters k t.low ≤ t.tens k n ∧ t.tens k n ≤ t.quarters k t.high := by
  unfold accepts at h
  dsimp only at h
  split at h <;> simp only [Bool.and_eq_true, decide_eq_true_eq] at h
  · exact h
  · exact h.imp Nat.le_of_lt Nat.le_of_lt

theorem value_eq_quarters (t : Target) : t.value = 4 * t.m * 2 ^ (t.q - 2) := by
  rw [value, zpow_sub₀ two_ne_zero]
  ring

theorem half_eq_quarters (q : ℤ) : (2 : ℚ) ^ (q - 1) = 2 * 2 ^ (q - 2) := by
  rw [zpow_sub₀ two_ne_zero, zpow_sub₀ two_ne_zero]
  ring

theorem abs_sub_le_of_accepts (h : t.accepts k n = true) :
    |(n : ℚ) * 10 ^ k - t.value| ≤ 2 ^ (t.q - 1) := by
  obtain ⟨hlow, hhigh⟩ := bounds_of_accepts h
  rw [quarters_le_tens_iff] at hlow
  rw [tens_le_quarters_iff] at hhigh
  have hunit : (0 : ℚ) < 2 ^ (t.q - 2) := zpow_pos two_pos _
  have hle : (4 * t.m : ℚ) - 2 ≤ t.low := by
    have hnat : 4 * t.m ≤ t.low + 2 := by
      unfold low
      split <;> omega
    have hcast : (4 * t.m : ℚ) ≤ t.low + 2 := mod_cast hnat
    linarith
  have hhighEq : (t.high : ℚ) = 4 * t.m + 2 := by simp [high]
  have hscaled := mul_le_mul_of_nonneg_right hle hunit.le
  rw [hhighEq] at hhigh
  rw [value_eq_quarters, half_eq_quarters, abs_le]
  constructor <;> linarith

theorem accepts_of_eq (h : t.tens k n = t.quarters k t.centre) : t.accepts k n = true := by
  have hfactor : 0 < scaleUp 2 (t.q - 2) * scaleUp 10 (-k) :=
    Nat.mul_pos (scaleUp_pos (by decide) _) (scaleUp_pos (by decide) _)
  have hmono {x y : ℕ} (hxy : x < y) : t.quarters k x < t.quarters k y := by
    simp only [quarters, Nat.mul_assoc]
    exact Nat.mul_lt_mul_of_pos_right hxy hfactor
  have hhigh : t.quarters k t.centre < t.quarters k t.high := hmono (by simp [centre, high])
  unfold accepts
  dsimp only
  rw [h]
  split
  · have hlow : t.quarters k t.low ≤ t.quarters k t.centre := by
      simp only [quarters, Nat.mul_assoc]
      exact Nat.mul_le_mul_right _ (Nat.sub_le _ _)
    simp [hlow, hhigh.le]
  · next hodd =>
    have hlow : t.quarters k t.low < t.quarters k t.centre := by
      refine hmono ?_
      unfold low centre
      split <;> omega
    simp [hlow, hhigh]

theorem accepts_of_onGrid? (h : t.onGrid? k = some n) : t.accepts k n = true := by
  unfold onGrid? at h
  dsimp only at h
  split at h
  · split at h <;> cases h <;> assumption
  · cases h; assumption
  · cases h; assumption
  · cases h

theorem exists_onGrid? (hq : 0 ≤ t.q) : ∃ n, t.onGrid? 0 = some n := by
  have heq : t.tens 0 (t.m * scaleUp 2 t.q) = t.quarters 0 t.centre := by
    rw [← Nat.cast_inj (R := ℚ), cast_tens, cast_quarters, centre, Nat.cast_mul, Nat.cast_mul,
      Nat.cast_ofNat, ← value_eq_quarters, scaleUp_of_nonneg 2 hq, zpow_zero, mul_one]
    rfl
  have hone : t.tens 0 (t.m * scaleUp 2 t.q) = t.m * scaleUp 2 t.q * t.tens 0 1 := by
    simp only [tens, Nat.one_mul, Nat.mul_assoc]
  have hpos : 0 < t.tens 0 1 := by
    unfold tens
    exact Nat.mul_pos (Nat.mul_pos one_pos (scaleUp_pos (by decide) _)) (scaleUp_pos (by decide) _)
  have hdiv : t.quarters 0 t.centre / t.tens 0 1 = t.m * scaleUp 2 t.q := by
    rw [← heq, hone, Nat.mul_div_cancel _ hpos]
  unfold onGrid?
  dsimp only
  rw [hdiv, accepts_of_eq heq]
  split
  · split <;> exact ⟨_, rfl⟩
  · exact ⟨_, rfl⟩
  · exact ⟨_, rfl⟩
  · next h _ => cases h

theorem search_cases (t : Target) (grids : ℕ) (k : ℤ) :
    t.search grids k = t.exact ∨ ∃ n l, t.accepts l n = true ∧ t.search grids k = ⟨n, l⟩ := by
  induction grids generalizing k with
  | zero => exact .inl rfl
  | succ grids ih =>
    rw [search]
    cases h : t.onGrid? k with
    | none => exact ih (k - 1)
    | some n => exact .inr ⟨n, k, accepts_of_onGrid? h, rfl⟩

theorem value_exact (t : Target) : t.exact.value = t.value := by
  unfold exact Decimal.value value
  split
  · next hq => rw [Nat.cast_mul, scaleUp_of_nonneg 2 hq, zpow_zero, mul_one, Nat.cast_ofNat]
  · next hq =>
    have hten : (10 : ℚ) ^ t.q = 5 ^ t.q * 2 ^ t.q := by
      rw [← mul_zpow]
      norm_num
    have hfive : (5 : ℚ) ^ t.q ≠ 0 := zpow_ne_zero _ (by norm_num)
    dsimp only
    rw [Nat.cast_mul, scaleUp_of_nonneg 5 (by omega), hten, zpow_neg, Nat.cast_ofNat]
    field_simp

/-- The shortest decimal is off by half a unit of the last binary place at most. -/
theorem abs_value_decimal_sub_le (t : Target) : |t.decimal.value - t.value| ≤ 2 ^ (t.q - 1) := by
  unfold decimal
  rcases t.search_cases 24 t.topExponent with h | ⟨n, l, hn, h⟩ <;> rw [h]
  · rw [value_exact, sub_self, abs_zero]
    exact (zpow_pos two_pos _).le
  · exact abs_sub_le_of_accepts hn

theorem exponent_search_nonneg (hq : 0 ≤ t.q) (grids : ℕ) (hk : 0 ≤ k) :
    0 ≤ (t.search grids k).exponent := by
  induction grids generalizing k with
  | zero => simp [search, exact, hq]
  | succ grids ih =>
    rw [search]
    cases h : t.onGrid? k with
    | some n => exact hk
    | none =>
      obtain ⟨n, hn⟩ := exists_onGrid? hq
      have hne : k ≠ 0 := by
        rintro rfl
        rw [hn] at h
        cases h
      exact ih (by omega)

theorem exponent_decimal_nonneg (hq : 0 ≤ t.q) : 0 ≤ t.decimal.exponent := by
  refine exponent_search_nonneg hq _ ?_
  unfold topExponent
  dsimp only
  split <;> omega

/-- A decimal without places is an integer, and then so is the number. -/
theorem exponent_decimal_neg (hvalue : ∀ v : ℕ, t.value ≠ v) : t.decimal.exponent < 0 := by
  by_contra! hexponent
  have hoff := t.abs_value_decimal_sub_le
  rw [Decimal.value_of_nonneg hexponent] at hoff
  generalize t.decimal.digits * 10 ^ t.decimal.exponent.toNat = v at hoff
  have hq : t.q < 0 := by
    by_contra! hq
    refine hvalue (t.m * scaleUp 2 t.q) ?_
    rw [Nat.cast_mul, scaleUp_of_nonneg 2 hq, value, Nat.cast_ofNat]
  have hscale : (2 : ℚ) ^ t.q * scaleUp 2 (-t.q) = 1 := by
    rw [scaleUp_of_nonneg 2 (by omega), Nat.cast_ofNat, ← zpow_add₀ two_ne_zero,
      add_neg_cancel, zpow_zero]
  -- In units of the last place both are integers, and less than one apart.
  have hnear : |((v * scaleUp 2 (-t.q) : ℕ) : ℤ) - t.m| < 1 := by
    have hpos : (0 : ℚ) < scaleUp 2 (-t.q) := Nat.cast_pos.mpr (scaleUp_pos (by decide) _)
    have hunits : ((v * scaleUp 2 (-t.q) : ℕ) : ℚ) - t.m = (v - t.value) * scaleUp 2 (-t.q) := by
      rw [sub_mul, value, mul_assoc, hscale, mul_one, Nat.cast_mul]
    have hhalf : (2 : ℚ) ^ (t.q - 1) * scaleUp 2 (-t.q) = 1 / 2 := by
      rw [zpow_sub₀ two_ne_zero, zpow_one, div_mul_eq_mul_div, hscale]
    rw [← Int.cast_lt (R := ℚ), Int.cast_abs, Int.cast_sub, Int.cast_natCast, Int.cast_natCast,
      hunits, abs_mul, abs_of_pos hpos]
    calc |(v : ℚ) - t.value| * scaleUp 2 (-t.q)
        ≤ 2 ^ (t.q - 1) * scaleUp 2 (-t.q) := mul_le_mul_of_nonneg_right hoff hpos.le
      _ < (1 : ℤ) := by rw [hhalf]; norm_num
  have hm : v * scaleUp 2 (-t.q) = t.m := by
    have := Int.abs_lt_one_iff.mp hnear
    omega
  refine hvalue v ?_
  rw [value, ← hm, Nat.cast_mul, mul_assoc, mul_comm (scaleUp 2 (-t.q) : ℚ), hscale, mul_one]

end Target

end Shortest

end LateBinding
