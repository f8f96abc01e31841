import LateBinding.Proofs.Text.Order
import LateBinding.Proofs.Text.Casing

/-! # Collation of texts

To compare the bytes of texts is to compare their code points, which is a total order. Without
regard to case, texts are in the order of what is left of them once the ASCII capitals are lowered,
and two of them are equal exactly if they come to the same text in either case.
-/

namespace LateBinding.TextOrder

open Utf8

variable {c d : Char} {as bs : List Char} {a b : String} {r s : List UInt8} {v : ℕ}

def codePoints (text : String) : List ℕ := text.toList.map Char.toNat

theorem compareBytes_eq (r s : List UInt8) : compareBytes r s = Ord.compare r s := by
  fun_induction compareBytes r s with
  | case1 | case2 | case3 => rfl
  | case4 a r b s hlt => simp [List.compare_cons_cons, Std.compare_eq_lt.mpr hlt]
  | case5 a r b s _ hgt => simp [List.compare_cons_cons, Std.compare_eq_gt.mpr hgt]
  | case6 a r b s hnlt hngt ih =>
    obtain rfl : a = b := UInt8.le_antisymm (UInt8.not_lt.mp hngt) (UInt8.not_lt.mp hnlt)
    simp [List.compare_cons_cons, ih]

theorem compareBytes_encode (as bs : List Char) :
    compareBytes (encode as) (encode bs) = Ord.compare (as.map Char.toNat) (bs.map Char.toNat) := by
  induction as generalizing bs with
  | nil => cases bs <;> simp [encode_nil, encode_cons, encodeChar_eq, compareBytes]
  | cons c as ih =>
    cases bs with
    | nil => simp [encode_nil, encode_cons, encodeChar_eq, compareBytes]
    | cons d bs =>
      rw [encode_cons, encode_cons, List.map_cons, List.map_cons, List.compare_cons_cons]
      rcases lt_trichotomy c d with hlt | rfl | hgt
      · have hnat : Ord.compare c.toNat d.toNat = .lt := Nat.compare_eq_lt.mpr hlt
        simp [compareBytes_encodeChar hlt, hnat]
      · simp [compareBytes_append, ih]
      · have hnat : Ord.compare c.toNat d.toNat = .gt := Nat.compare_eq_gt.mpr hgt
        simp [← compareBytes_swap (encodeChar d ++ _), compareBytes_encodeChar hgt, hnat]

theorem compare_eq_codePoints (a b : String) :
    TextOrder.compare a b = Ord.compare (codePoints a) (codePoints b) := compareBytes_encode _ _

theorem codePoints_inj : codePoints a = codePoints b ↔ a = b := by
  unfold codePoints
  rw [List.map_inj_right fun _ _ => Char.toNat_inj.mp, String.toList_inj]

instance : Std.TransCmp TextOrder.compare where
  eq_swap := by
    intro a b
    rw [compare_swap]
  isLE_trans := by
    intro a b c
    rw [compare_eq_codePoints, compare_eq_codePoints, compare_eq_codePoints]
    exact Std.TransCmp.isLE_trans

instance : Std.LawfulEqCmp TextOrder.compare where
  compare_self := by
    intro a
    rw [compare_eq_codePoints]
    exact Std.ReflCmp.compare_self
  eq_of_compare := by
    intro a b h
    rw [compare_eq_codePoints] at h
    exact codePoints_inj.mp (Std.LawfulEqCmp.eq_of_compare h)

theorem compare_eq_eq_iff : TextOrder.compare a b = .eq ↔ a = b := Std.LawfulEqCmp.compare_eq_iff_eq

theorem lowerByte_ofNat (hv : 0x5b ≤ v) (hlt : v < 256) :
    lowerByte (UInt8.ofNat v) = UInt8.ofNat v := by
  have hnat : (UInt8.ofNat v).toNat = v := by
    rw [UInt8.toNat_ofNat']
    omega
  have hlow : (0x5a : UInt8).toNat = 0x5a := rfl
  unfold lowerByte
  rw [if_neg]
  simp only [Bool.and_eq_true, decide_eq_true_eq, UInt8.le_iff_toNat_le, hnat, hlow]
  omega

theorem map_lowerByte_digits (v k : ℕ) : (digits v k).map lowerByte = digits v k := by
  induction k with
  | zero => rfl
  | succ k ih =>
    have hbyte : lowerByte (UInt8.ofNat (v / 64 ^ k % 64 + 0x80)) = _ :=
      lowerByte_ofNat (by omega) (by omega)
    rw [digits, List.map_cons, hbyte, ih]

theorem le_lead (hv : 0x80 ≤ v) : 0x80 ≤ lead v := by
  unfold lead width
  split_ifs <;> simp only [mark] <;> omega

/-- To lower the bytes of a character is to lower the character: bytes of other than ASCII
characters are above the letters. -/
theorem map_lowerByte_encodeChar : ∀ c :
    Char, (encodeChar c).map lowerByte = encodeChar c.toLower := by
  apply Casing.ascii_cases
  · decide +kernel
  · intro c hc hlower _ _ _
    have hlead : lowerByte (UInt8.ofNat (lead c.toNat)) = _ :=
      lowerByte_ofNat (by have := le_lead hc; omega) (lead_lt (toNat_lt c))
    rw [hlower, encodeChar_eq, List.map_cons, hlead, map_lowerByte_digits]

theorem map_lowerByte_encode (cs : List Char) :
    (encode cs).map lowerByte = encode (cs.map Char.toLower) := by
  induction cs with
  | nil => rfl
  | cons c cs ih =>
    rw [List.map_cons, encode_cons, encode_cons, List.map_append, map_lowerByte_encodeChar, ih]

/-- The caseless order is the order of the texts with their ASCII capitals lowered. -/
theorem compareCaseless_eq (a b : String) :
    compareCaseless a b = TextOrder.compare (Casing.ascii.downcase a)
      (Casing.ascii.downcase b) := by
  unfold compareCaseless TextOrder.compare
  rw [map_lowerByte_encode, map_lowerByte_encode, Casing.toList_downcase_ascii,
    Casing.toList_downcase_ascii]

instance : Std.TransCmp compareCaseless where
  eq_swap := by
    intro a b
    rw [compareCaseless_eq, compareCaseless_eq]
    exact Std.OrientedCmp.eq_swap
  isLE_trans := by
    intro a b c
    rw [compareCaseless_eq, compareCaseless_eq, compareCaseless_eq]
    exact Std.TransCmp.isLE_trans

theorem compareCaseless_eq_eq_iff :
    compareCaseless a b = .eq ↔ Casing.ascii.downcase a = Casing.ascii.downcase b := by
  rw [compareCaseless_eq, compare_eq_eq_iff]

theorem sameCaseless_iff : sameCaseless r s = true ↔ r.map lowerByte = s.map lowerByte := by
  fun_induction sameCaseless r s with
  | case1 => simp
  | case2 a r b s ih => simp [ih]
  | case3 r s hnil hcons =>
    cases r with
    | nil =>
      cases s with
      | nil => exact absurd rfl (hnil rfl)
      | cons b s => simp
    | cons a r =>
      cases s with
      | nil => simp
      | cons b s => exact absurd rfl (hcons a r b s rfl)

theorem eqCaseless_iff : eqCaseless a b = true ↔ compareCaseless a b = .eq := by
  unfold eqCaseless compareCaseless
  rw [sameCaseless_iff, compareBytes_eq_iff]

theorem toUpper_eq_iff : c.toUpper = d.toUpper ↔ c.toLower = d.toLower := by
  constructor
  · intro h
    rw [← (Casing.sameButCase_toUpper c).1, h, (Casing.sameButCase_toUpper d).1]
  · intro h
    rw [← Casing.toUpper_toLower c, h, Casing.toUpper_toLower]

theorem upcase_eq_iff : Casing.ascii.upcase a = Casing.ascii.upcase b ↔
    Casing.ascii.downcase a = Casing.ascii.downcase b := by
  rw [← String.toList_inj, ← String.toList_inj, Casing.toList_upcase_ascii,
    Casing.toList_upcase_ascii, Casing.toList_downcase_ascii, Casing.toList_downcase_ascii,
    ← List.forall₂_eq_eq_eq, List.forall₂_map_left_iff, List.forall₂_map_right_iff,
    List.forall₂_map_left_iff, List.forall₂_map_right_iff]
  simp only [toUpper_eq_iff]

end LateBinding.TextOrder
