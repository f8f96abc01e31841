import LateBinding.Text.Order
import Mathlib.Data.String.Basic

/-! # The order of texts by code points

The first byte of a character grows with its code point, and among those with one first byte the
others are the digits of a numeral. So UTF-8 keeps the order of code points, and texts are in the
order of their characters.
-/

namespace LateBinding.TextOrder

open Utf8

variable {c d : Char} {as bs : List Char} {a b : UInt8} {p r s : List UInt8} {v w : ℕ}

theorem compareBytes_cons_of_lt (h : a < b) : compareBytes (a :: r) (b :: s) = .lt := by
  simp [compareBytes, h]

theorem compareBytes_append (p r s : List UInt8) :
    compareBytes (p ++ r) (p ++ s) = compareBytes r s := by
  induction p with
  | nil => rfl
  | cons a p ih => simp [compareBytes, UInt8.lt_irrefl, ih]

theorem compareBytes_swap (r s : List UInt8) : (compareBytes r s).swap = compareBytes s r := by
  fun_induction compareBytes r s with
  | case1 | case2 | case3 => rfl
  | case4 a r b s hlt => simp [compareBytes, hlt, UInt8.lt_asymm hlt]
  | case5 a r b s _ hgt => simp [compareBytes, hgt]
  | case6 a r b s hnlt hngt ih => simp [compareBytes, hnlt, hngt, ih]

theorem ofNat_lt (hw : w < 256) (h : v < w) : UInt8.ofNat v < UInt8.ofNat w := by
  rw [UInt8.lt_iff_toNat_lt, UInt8.toNat_ofNat', UInt8.toNat_ofNat']
  omega

def width (v : ℕ) : ℕ :=
  if v ≤ 0x7f then 0 else if v ≤ 0x7ff then 1 else if v ≤ 0xffff then 2 else 3

/-- The first byte of a character that so many follow, without any bits of its code point. -/
def mark : ℕ → ℕ
  | 0 => 0
  | 1 => 0xc0
  | 2 => 0xe0
  | _ => 0xf0

/-- The bytes that follow: the digits of the code point in base 64. -/
def digits (v : ℕ) : ℕ → List UInt8
  | 0 => []
  | k + 1 => UInt8.ofNat (v / 64 ^ k % 64 + 0x80) :: digits v k

def lead (v : ℕ) : ℕ := v / 64 ^ width v + mark (width v)

theorem toNat_lt (c : Char) : c.toNat < 0x110000 := by
  have hvalid : c.toNat < 0xd800 ∨ 0xdfff < c.toNat ∧ c.toNat < 0x110000 := c.valid
  omega

theorem encodeChar_eq (c : Char) :
    encodeChar c = UInt8.ofNat (lead c.toNat) :: digits c.toNat (width c.toNat) := by
  have hlt := toNat_lt c
  have hchar : encodeChar c = String.utf8EncodeChar c := rfl
  rw [hchar, String.utf8EncodeChar, Char.toNat_val]
  unfold lead width
  split_ifs
  · simp [mark, digits]
  · have hmod : c.toNat / 64 % 32 = c.toNat / 64 := Nat.mod_eq_of_lt (by omega)
    simp [mark, digits, hmod]
  · have hmod : c.toNat / 4096 % 16 = c.toNat / 4096 := Nat.mod_eq_of_lt (by omega)
    simp [mark, digits, hmod]
  · have hmod : c.toNat / 262144 % 8 = c.toNat / 262144 := Nat.mod_eq_of_lt (by omega)
    simp [mark, digits, hmod]

theorem lead_lt (hv : v < 0x110000) : lead v < 256 := by
  unfold lead width
  split_ifs <;> simp only [mark, Nat.reducePow] <;> omega

/-- The first byte tells the order of two characters, or else as many bytes follow and they tell
it. -/
theorem lead_cases (h : v < w) (hw : w < 0x110000) :
    lead v < lead w ∨ lead v = lead w ∧ width v = width w ∧
    v % 64 ^ width v < w % 64 ^ width v := by
  unfold lead width
  split_ifs <;> simp only [mark, Nat.reducePow, true_and] <;> omega

theorem div_lt_or_mod_lt (h : v < w) (k : ℕ) : v / k < w / k ∨ v / k = w / k ∧ v % k < w % k := by
  have hv := Nat.div_add_mod v k
  have hw := Nat.div_add_mod w k
  rcases Nat.lt_or_eq_of_le (Nat.div_le_div_right h.le) with hlt | heq
  · exact .inl hlt
  · rw [heq] at hv
    exact .inr ⟨heq, by omega⟩

theorem compareBytes_digits {k : ℕ} (h : v % 64 ^ k < w % 64 ^ k) :
    compareBytes (digits v k ++ r) (digits w k ++ s) = .lt := by
  induction k with
  | zero => simp [Nat.mod_one] at h
  | succ k ih =>
    have hdigit := div_lt_or_mod_lt h (64 ^ k)
    simp only [Nat.pow_succ, Nat.mod_mul_right_div_self, Nat.mod_mul_right_mod] at hdigit
    unfold digits
    rcases hdigit with hlt | ⟨heq, hrest⟩
    · exact compareBytes_cons_of_lt (ofNat_lt (by omega) (by omega))
    · rw [heq]
      exact (compareBytes_append [_] _ _).trans (ih hrest)

theorem compareBytes_encodeChar (h : c < d) :
    compareBytes (encodeChar c ++ r) (encodeChar d ++ s) = .lt := by
  have hlt : c.toNat < d.toNat := h
  rw [encodeChar_eq, encodeChar_eq]
  rcases lead_cases hlt (toNat_lt d) with hlead | ⟨hlead, hwidth, hdigits⟩
  · exact compareBytes_cons_of_lt (ofNat_lt (lead_lt (toNat_lt d)) hlead)
  · rw [hlead, ← hwidth]
    exact (compareBytes_append [_] _ _).trans (compareBytes_digits hdigits)

theorem encode_nil : encode [] = [] := rfl

theorem encode_cons (c : Char) (cs : List Char) : encode (c :: cs) = encodeChar c ++ encode cs :=
  List.flatMap_cons

/-- UTF-8 keeps the order of texts. -/
theorem compareBytes_encode_eq_lt_iff : compareBytes (encode as) (encode bs) = .lt ↔ as < bs := by
  induction as generalizing bs with
  | nil =>
    cases bs with
    | nil => simp [encode_nil, compareBytes]
    | cons d bs => simp [encode_nil, encode_cons, encodeChar_eq, compareBytes]
  | cons c as ih =>
    cases bs with
    | nil => simp [encode_nil, encode_cons, encodeChar_eq, compareBytes]
    | cons d bs =>
      rw [encode_cons, encode_cons, List.cons_lt_cons_iff]
      rcases lt_trichotomy c d with hlt | rfl | hgt
      · simp [compareBytes_encodeChar hlt, hlt]
      · simp [compareBytes_append, ih]
      · have hswap := compareBytes_swap (encodeChar d ++ encode bs) (encodeChar c ++ encode as)
        rw [compareBytes_encodeChar hgt] at hswap
        simp [← hswap, hgt.not_gt, hgt.ne']

theorem compare_swap (text text' : String) :
    (TextOrder.compare text text').swap = TextOrder.compare text' text := compareBytes_swap _ _

theorem compare_eq_lt_iff {text text' : String} : TextOrder.compare text text' = .lt ↔
    text < text' := by
  rw [TextOrder.compare, compareBytes_encode_eq_lt_iff, String.lt_iff_toList_lt]

end LateBinding.TextOrder
