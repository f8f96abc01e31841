import LateBinding.Number.DoubleText
import LateBinding.Number.Word
import LateBinding.Proofs.Number.Shortest
import LateBinding.Proofs.Value.Display
import Mathlib.Data.Nat.Cast.Field
import Mathlib.Tactic.Positivity

/-! # Texts of binary64 numbers and of integers

A binary64 number that is not whole is written with a point, and so is a whole one below ten to the
sixteenth. From there on a whole number is written in digits alone, and these are the digits of an
integer close by. The text is then that of a 64-bit integer as well, as long as the number is within
their bounds.
-/

namespace LateBinding

namespace Double

open Shortest

variable {d : Double} {c : Char} {m k v : ℕ} {q : ℤ}

/-- The number is whole, and `k` but for its sign. -/
def AmountsTo (d : Double) (k : ℕ) : Prop := ∃ m q, d.magnitude = .finite m q ∧ (m : ℚ) * 2 ^ q = k

theorem cast_wholePart (h : isWhole m q = true) : (wholePart m q : ℚ) = m * 2 ^ q := by
  unfold wholePart
  split
  · next hq => rw [Nat.shiftLeft_eq, Nat.cast_mul, Nat.cast_pow, Nat.cast_ofNat, ← zpow_natCast,
                 Int.toNat_of_nonneg hq]
  · next hq =>
    have hdvd : 2 ^ (-q).toNat ∣ m := by
      simpa [isWhole, hq, Nat.one_shiftLeft, Nat.dvd_iff_mod_eq_zero] using h
    have hexp : q = -((-q).toNat : ℤ) := by omega
    rw [Nat.shiftRight_eq_div_pow, Nat.cast_div hdvd (by positivity), div_eq_mul_inv, Nat.cast_pow,
      Nat.cast_ofNat]
    conv_rhs => rw [hexp, zpow_neg, zpow_natCast]

theorem isWhole_of_eq (h : (m : ℚ) * 2 ^ q = k) : isWhole m q = true := by
  unfold isWhole
  by_cases hq : 0 ≤ q
  · simp [hq]
  · have hexp : q = -((-q).toNat : ℤ) := by omega
    have hm : m = k * 2 ^ (-q).toNat := by
      rw [hexp, zpow_neg, zpow_natCast, ← div_eq_mul_inv, div_eq_iff (by positivity)] at h
      exact_mod_cast h
    simp [hq, Nat.one_shiftLeft, hm]

theorem amountsTo_iff (h : d.magnitude = .finite m q) : d.AmountsTo k ↔ isWhole m q = true ∧
    wholePart m q = k := by
  constructor
  · rintro ⟨m', q', h', hk⟩
    obtain ⟨rfl, rfl⟩ := Magnitude.finite.inj (h.symm.trans h')
    have hwhole := isWhole_of_eq hk
    refine ⟨hwhole, ?_⟩
    rw [← cast_wholePart hwhole] at hk
    exact_mod_cast hk
  · rintro ⟨hwhole, rfl⟩
    exact ⟨m, q, h, (cast_wholePart hwhole).symm⟩

/-- A finite number has at most 53 binary digits, and just as many unless its last place is the
least of all. -/
theorem finite_bounds (h : d.magnitude = .finite m q) :
    m < 2 ^ 53 ∧ (q < 0 ∨ 2 ^ 52 ≤ m ∧ q = d.exponentField - 1075) := by
  have hfraction : d.fractionField < 2 ^ 52 := Nat.mod_lt _ (by decide)
  unfold magnitude at h
  split_ifs at h <;> cases h
  · exact ⟨by omega, .inl (by decide)⟩
  · exact ⟨by omega, .inr ⟨by omega, rfl⟩⟩

theorem point_mem_positional {e : Decimal} (h : e.exponent < 0) : '.' ∈ positional e := by
  unfold positional
  dsimp only
  rw [if_neg (by omega)]
  split <;> simp

theorem toString_mul_ten (hv : 0 < v) :
    (toString (v * 10)).toList = (toString v).toList ++ ['0'] := by
  simp only [Nat.toString_eq_repr, Nat.toList_repr]
  rw [Nat.toDigits_of_base_le (by decide) (by omega), Nat.mul_div_cancel _ (by decide),
    Nat.mul_mod_left]
  rfl

theorem positional_of_nonneg {e : Decimal} (h : 0 ≤ e.exponent) (hdigits : 0 < e.digits) :
    positional e = (toString (e.digits * 10 ^ e.exponent.toNat)).toList := by
  have hzeros (n : ℕ) :
      (toString e.digits).toList ++ zeros n = (toString (e.digits * 10 ^ n)).toList := by
    induction n with
    | zero => simp [zeros]
    | succ n ih =>
      have hpos : 0 < e.digits * 10 ^ n := by positivity
      rw [Nat.pow_succ, ← Nat.mul_assoc, toString_mul_ten hpos, ← ih, zeros, List.replicate_succ',
        List.append_assoc]
      rfl
  unfold positional
  dsimp only
  rw [if_pos h, hzeros]

/-- The integer that the shortest decimal of `m * 2 ^ q` stands for, if it has no places. -/
def written (d : Double) (m : ℕ) (q : ℤ) : ℕ :=
  (d.target m q).decimal.digits * 10 ^ (d.target m q).decimal.exponent.toNat

theorem abs_written_sub_le (hq : 0 ≤ q) : |(d.written m q : ℚ) - m * 2 ^ q| ≤ 2 ^ (q - 1) := by
  have hoff := (d.target m q).abs_value_decimal_sub_le
  rwa [Decimal.value_of_nonneg (Target.exponent_decimal_nonneg hq)] at hoff

theorem written_bounds (d : Double) (m p : ℕ) :
    m * 2 ^ (p + 1) ≤ d.written m (p + 1) + 2 ^ p ∧
    d.written m (p + 1) ≤ m * 2 ^ (p + 1) + 2 ^ p := by
  have hoff := d.abs_written_sub_le (m := m) (q := p + 1) (by omega)
  have hpow : (2 : ℚ) ^ (p + 1 : ℤ) = 2 ^ (p + 1) := by exact_mod_cast zpow_natCast (2 : ℚ) (p + 1)
  rw [add_sub_cancel_right, abs_le, zpow_natCast, hpow] at hoff
  obtain ⟨hlow, hhigh⟩ := hoff
  constructor
  · have hle : (m * 2 ^ (p + 1) : ℚ) ≤ d.written m (p + 1) + 2 ^ p := by linarith
    exact_mod_cast hle
  · have hle : (d.written m (p + 1) : ℚ) ≤ m * 2 ^ (p + 1) + 2 ^ p := by linarith
    exact_mod_cast hle

theorem written_pos (hm : 0 < m) (p : ℕ) : 0 < d.written m (p + 1) := by
  have hlow := (d.written_bounds m p).1
  have hunit : 2 ^ (p + 1) ≤ m * 2 ^ (p + 1) := Nat.le_mul_of_pos_left _ hm
  have hhalf : 0 < 2 ^ p := by positivity
  rw [Nat.pow_succ] at hunit hlow
  omega

theorem written_lt (hm : 0 < m) {p : ℕ} (h : m * 2 ^ (p + 1) < wordBound) :
    d.written m (p + 1) < wordBound := by
  have hword : wordBound = 2 ^ 63 := rfl
  rw [hword] at h ⊢
  have hp : p + 1 < 63 :=
    (Nat.pow_lt_pow_iff_right one_lt_two).mp ((Nat.le_mul_of_pos_left _ hm).trans_lt h)
  have hsplit : 2 ^ 63 = 2 ^ (62 - p) * 2 ^ (p + 1) := by
    rw [← Nat.pow_add]
    congr 1
    omega
  have hnext : (m + 1) * 2 ^ (p + 1) ≤ 2 ^ 63 := by
    rw [hsplit] at h ⊢
    exact Nat.mul_le_mul_right _ (Nat.lt_of_mul_lt_mul_right h)
  have hhigh := (d.written_bounds m p).2
  have hhalf : 2 ^ p < 2 ^ (p + 1) := Nat.pow_lt_pow_right one_lt_two (by omega)
  rw [Nat.add_mul] at hnext
  omega

/-- The least number with 53 digits that exceeds the integers of 64 bits is written with a greater
one. -/
theorem written_least (hd : 1 < d.exponentField) : d.written (2 ^ 52) 11 = 9223372036854776000 := by
  have hdecimal : (⟨2 ^ 52, 11, true⟩ : Target).decimal = ⟨9223372036854776, 3⟩ := by decide +kernel
  have htarget : d.target (2 ^ 52) 11 = ⟨2 ^ 52, 11, true⟩ := by simp [target, hd]
  rw [written, htarget, hdecimal]
  rfl

theorem lt_written (hd : 1 < d.exponentField) (hm : 2 ^ 52 ≤ m) (hm' : m < 2 ^ 53) {p : ℕ}
    (h : wordBound ≤ m * 2 ^ (p + 1)) : wordBound < d.written m (p + 1) := by
  unfold wordBound at *
  have hlow := (d.written_bounds m p).1
  have hp : 10 ≤ p := by
    by_contra! hp
    have hle : 2 ^ (p + 1) ≤ 2 ^ 10 := Nat.pow_le_pow_right two_pos hp
    have := Nat.mul_lt_mul_of_lt_of_le hm' hle (by positivity)
    omega
  rcases hp.eq_or_lt with rfl | hp
  · rcases hm.eq_or_lt with rfl | hm
    · have hleast := written_least hd
      norm_num at hleast ⊢
      omega
    · norm_num at hlow ⊢
      omega
  · have hhalf : 2 ^ 11 ≤ 2 ^ p := Nat.pow_le_pow_right two_pos hp
    rw [Nat.pow_succ] at hlow
    nlinarith

theorem mem_toText (h : d.magnitude = .finite m q) (hc : c ∈ d.unsignedChars m q) :
    c ∈ d.toText.toList := by
  unfold toText
  dsimp only
  rw [h, String.toList_ofList]
  exact List.mem_append_right _ hc

theorem point_mem_toText (h : d.magnitude = .finite m q)
    (hk : isWhole m q = true → wholePart m q < 10 ^ 16) : '.' ∈ d.toText.toList := by
  refine mem_toText h ?_
  unfold unsignedChars
  by_cases hwhole : isWhole m q = true
  · have hbound : wholePart m q < pointBound := hk hwhole
    simp [hwhole, hbound]
  · rw [if_neg (by simp [hwhole])]
    exact point_mem_positional (Target.exponent_decimal_neg fun v hv => hwhole (isWhole_of_eq hv))

theorem toString_ne_of_mem {text : String} (hc : c ∈ text.toList) (hdigit : c.isDigit = false)
    (hsign : c ≠ '-') (i : ℤ) : text ≠ toString i := by
  rintro rfl
  rcases Heap.mem_toString_int hc with h | h
  · rw [h] at hdigit
    cases hdigit
  · exact hsign h

theorem wholePart_le (hq : q ≤ 0) : wholePart m q ≤ m := by
  unfold wholePart
  split
  · obtain rfl : q = 0 := by omega
    exact le_rfl
  · rw [Nat.shiftRight_eq_div_pow]
    exact Nat.div_le_self _ _

theorem ofList_sign (hv : 0 < v) (negative : Bool) :
    String.ofList ((if negative then ['-'] else []) ++ (toString v).toList) =
      toString (if negative then -(v : ℤ) else v) := by
  rw [← String.toList_inj, String.toList_ofList, Int.toString_eq_repr, Nat.toString_eq_repr,
    Int.repr_eq_if]
  cases negative
  · simp
  · simp [hv.ne']

/-- A whole number from ten to the sixteenth on is written as an integer. -/
theorem toText_of_whole (h : d.magnitude = .finite m q) (hwhole : isWhole m q = true)
    (hk : 10 ^ 16 ≤ wholePart m q) :
    ∃ p : ℕ, wholePart m q = m * 2 ^ (p + 1) ∧ 2 ^ 52 ≤ m ∧ m < 2 ^ 53 ∧ 1 < d.exponentField ∧
      d.toText = toString (if d.isNegative then -(d.written m (p + 1) : ℤ)
        else d.written m (p + 1)) := by
  obtain ⟨hm, hq⟩ := finite_bounds h
  have hpos : 0 < q := by
    by_contra! hq
    have := wholePart_le (m := m) hq
    omega
  obtain ⟨hm', hfield⟩ := hq.resolve_left (by omega)
  obtain ⟨p, rfl⟩ : ∃ p : ℕ, q = p + 1 := ⟨(q - 1).toNat, by omega⟩
  have hvpos : 0 < d.written m (p + 1) := written_pos (by omega) p
  have hdigits : 0 < (d.target m (p + 1)).decimal.digits := Nat.pos_of_mul_pos_right hvpos
  have hchars : d.unsignedChars m (p + 1) = (toString (d.written m (p + 1))).toList := by
    have hbound : ¬ wholePart m (p + 1) < pointBound := Nat.not_lt.mpr hk
    unfold unsignedChars
    rw [if_neg (by simp [hbound]),
      positional_of_nonneg (Target.exponent_decimal_nonneg (by simp only [target]; omega)) hdigits]
    rfl
  refine ⟨p, Nat.shiftLeft_eq _ _, hm', hm, by omega, ?_⟩
  unfold toText
  dsimp only
  rw [h]
  dsimp only
  rw [hchars, ofList_sign hvpos]

theorem exists_toText_eq (h : d.AmountsTo k) (hlow : 10 ^ 16 ≤ k) (hhigh : k < wordBound) :
    ∃ n : Int64, d.toText = toString n.toInt := by
  obtain ⟨m, q, hd, hk⟩ := h
  obtain ⟨hwhole, rfl⟩ := (amountsTo_iff hd).mp ⟨m, q, hd, hk⟩
  obtain ⟨p, hp, hm, -, -, htext⟩ := toText_of_whole hd hwhole hlow
  rw [hp] at hhigh
  have hlt := written_lt (d := d) (by omega) hhigh
  generalize hi :
    (if d.isNegative then -(d.written m (p + 1) : ℤ) else d.written m (p + 1)) = i at htext
  have hrange : IsWord i := by
    rw [← hi]
    unfold IsWord
    split <;> omega
  refine ⟨Int64.ofInt i, ?_⟩
  rw [htext, Int64.toInt_ofInt_of_le hrange.1 hrange.2]

theorem toText_ne (hk : ∀ k, d.AmountsTo k → k < 10 ^ 16 ∨ wordBound ≤ k) (n : Int64) :
    d.toText ≠ toString n.toInt := by
  cases hd : d.magnitude with
  | nan =>
    have hmem : 'N' ∈ d.toText.toList := by
      unfold toText
      rw [hd]
      simp
    exact toString_ne_of_mem hmem rfl (by decide) _
  | infinite =>
    have hmem : 'I' ∈ d.toText.toList := by
      unfold toText
      rw [hd]
      simp
    exact toString_ne_of_mem hmem rfl (by decide) _
  | finite m q =>
    by_cases hpoint : isWhole m q = true → wholePart m q < 10 ^ 16
    · exact toString_ne_of_mem (point_mem_toText hd hpoint) rfl (by decide) _
    · push Not at hpoint
      obtain ⟨hwhole, hlow⟩ := hpoint
      obtain ⟨p, hp, hm, hm', hfield, htext⟩ := toText_of_whole hd hwhole hlow
      have hhigh := (hk _ ((amountsTo_iff hd).mpr ⟨hwhole, rfl⟩)).resolve_left (by omega)
      rw [hp] at hhigh
      have hlt := lt_written hfield hm hm' hhigh
      rw [htext, Ne, Heap.toString_int_inj]
      unfold wordBound at hlt
      have hmin := n.le_toInt
      have hmax := n.toInt_lt
      split <;> omega

end Double

open Double in
/-- A number is told from every integer by its literal form, unless it is whole and lies between ten
to the sixteenth, from where on the point is left out, and the bound of the integers. -/
theorem Heap.inspect_float_ne_iff (h : Heap) (d : Double) :
    (∀ n : Int64, h.inspect? (.float d) ≠ h.inspect? (.integer n)) ↔
      ∀ k, d.AmountsTo k → k < 10 ^ 16 ∨ wordBound ≤ k := by
  have hfloat : h.inspect? (.float d) = some d.toText := h.inspect?_eq _
  have hinteger (n : Int64) : h.inspect? (.integer n) = some (toString n.toInt) := h.inspect?_eq _
  simp only [hfloat, hinteger, ne_eq, Option.some.injEq]
  refine ⟨fun hne k hk => ?_, toText_ne⟩
  by_contra! hbounds
  obtain ⟨n, hn⟩ := exists_toText_eq hk hbounds.1 hbounds.2
  exact hne n hn

/-- Ten to the sixteenth is written like the integer. -/
theorem Heap.inspect_float_eq_integer :
    Heap.empty.inspect? (.float ⟨0x4341c37937e08000⟩) = some "10000000000000000" ∧
      Heap.empty.inspect? (.integer 10000000000000000) = some "10000000000000000" := by
  decide +kernel

end LateBinding
