import LateBinding.Proofs.Text.Order
import Mathlib.Order.Bounds.Basic

/-! # Reading UTF-8

A few bytes stand for a character just when they are its encoding: no overlong form does, and no
surrogate. Bytes are read from the front, one character after the other, so that they are read as a
text exactly if they encode it, and otherwise up to the end of the longest prefix that encodes any
text.
-/

namespace LateBinding.Utf8

open TextOrder

variable {c : Char} {cs : List Char} {a b d e : UInt8} {p bytes : List UInt8} {text : String}
  {k v : ℕ}

theorem isContinuation_iff : isContinuation b = true ↔ 0x80 ≤ b.toNat ∧ b.toNat < 0xc0 := by
  simp [isContinuation, UInt8.le_iff_toNat_le, UInt8.lt_iff_toNat_lt]

theorem secondFits_iff : secondFits a b = true ↔ (0x80 ≤ b.toNat ∧ b.toNat < 0xc0) ∧
    (a.toNat = 0xe0 → 0xa0 ≤ b.toNat) ∧ (a.toNat = 0xed → b.toNat < 0xa0) ∧
    (a.toNat = 0xf0 → 0x90 ≤ b.toNat) ∧ (a.toNat = 0xf4 → b.toNat < 0x90) := by
  simp [secondFits, isContinuation_iff, UInt8.le_iff_toNat_le, UInt8.lt_iff_toNat_lt,
    ← UInt8.toNat_inj, and_assoc, imp_iff_not_or]

inductive Stands : List UInt8 → Char → Prop
  | one {a : UInt8} (first : a.toNat < 0x80) : Stands [a] (.ofNat a.toNat)
  | two {a b : UInt8} (first : 0xc2 ≤ a.toNat ∧ a.toNat < 0xe0) (second : isContinuation b = true) :
    Stands [a, b] (.ofNat (a.toNat % 0x20 * 0x40 + low6 b))
  | three {a b d : UInt8} (first : 0xe0 ≤ a.toNat ∧ a.toNat < 0xf0) (second : secondFits a b = true)
    (third : isContinuation d = true) :
    Stands [a, b, d] (.ofNat (a.toNat % 0x10 * 0x1000 + low6 b * 0x40 + low6 d))
  | four {a b d e : UInt8} (first : 0xf0 ≤ a.toNat ∧
    a.toNat < 0xf5) (second : secondFits a b = true)
    (third : isContinuation d = true) (fourth : isContinuation e = true) :
    Stands [a, b, d, e] (.ofNat (a.toNat % 0x8 * 0x40000 + low6 b * 0x1000 + low6 d *
      0x40 + low6 e))

theorem encodeChar_ofNat (hv : v < 0xd800 ∨ 0xdfff < v ∧ v < 0x110000) (hk : width v = k) :
    encodeChar (.ofNat v) = UInt8.ofNat (v / 64 ^ k + mark k) :: digits v k := by
  have hc : (Char.ofNat v).toNat = v := by rw [Char.ofNat, dif_pos hv]; rfl
  rw [encodeChar_eq, hc, lead, hk]

theorem ofNat_eq (h : v = a.toNat) : UInt8.ofNat v = a := by
  rw [h, UInt8.ofNat_toNat]

theorem Stands.encodeChar_eq (h : Stands p c) : encodeChar c = p := by
  cases h with
  | @one a first =>
    have hwidth : width a.toNat = 0 := if_pos (by omega)
    rw [encodeChar_ofNat (.inl (by omega)) hwidth]
    simp [mark, digits]
  | @two a b first second =>
    rw [isContinuation_iff] at second
    unfold low6
    generalize hv : a.toNat % 0x20 * 0x40 + b.toNat % 0x40 = v
    have hwidth : width v = 1 := by unfold width; split_ifs <;> omega
    rw [encodeChar_ofNat (by omega) hwidth]
    simp only [mark, digits, Nat.reducePow]
    rw [ofNat_eq (a := a) (by omega), ofNat_eq (a := b) (by omega)]
  | @three a b d first second third =>
    rw [isContinuation_iff] at third
    rw [secondFits_iff] at second
    unfold low6
    generalize hv : a.toNat % 0x10 * 0x1000 + b.toNat % 0x40 * 0x40 + d.toNat % 0x40 = v
    have hwidth : width v = 2 := by unfold width; split_ifs <;> omega
    rw [encodeChar_ofNat (by omega) hwidth]
    simp only [mark, digits, Nat.reducePow]
    rw [ofNat_eq (a := a) (by omega), ofNat_eq (a := b) (by omega), ofNat_eq (a := d) (by omega)]
  | @four a b d e first second third fourth =>
    rw [isContinuation_iff] at third fourth
    rw [secondFits_iff] at second
    unfold low6
    generalize hv : a.toNat % 0x8 * 0x40000 + b.toNat % 0x40 * 0x1000 + d.toNat % 0x40 * 0x40 +
      e.toNat % 0x40 = v
    have hwidth : width v = 3 := by unfold width; split_ifs <;> omega
    rw [encodeChar_ofNat (by omega) hwidth]
    simp only [mark, digits, Nat.reducePow]
    rw [ofNat_eq (a := a) (by omega), ofNat_eq (a := b) (by omega), ofNat_eq (a := d) (by omega),
      ofNat_eq (a := e) (by omega)]

theorem stands_of_toNat (h : Stands p (.ofNat v)) (hv : v = c.toNat) : Stands p c := by
  rwa [hv, Char.ofNat_toNat] at h

theorem tail_mod (n : ℕ) : (n % 0x40 + 0x80) % 0x100 % 0x40 = n % 0x40 := by omega

theorem stands_encodeChar (c : Char) : Stands (encodeChar c) c := by
  have hlt := toNat_lt c
  have hvalid : c.toNat < 0xd800 ∨ 0xdfff < c.toNat ∧ c.toNat < 0x110000 := c.valid
  rw [encodeChar_eq]
  unfold lead width
  split_ifs
  · refine stands_of_toNat (.one ?_) ?_ <;> simp [mark, UInt8.toNat_ofNat'] <;> omega
  · refine stands_of_toNat (.two ?_ ?_) ?_ <;>
      simp only [isContinuation_iff, low6, mark, UInt8.toNat_ofNat', Nat.reducePow] <;> omega
  · refine stands_of_toNat (.three ?_ ?_ ?_) ?_ <;>
      simp only [isContinuation_iff, secondFits_iff, low6, mark, tail_mod, UInt8.toNat_ofNat',
        Nat.reducePow] <;> omega
  · refine stands_of_toNat (.four ?_ ?_ ?_ ?_) ?_ <;>
      simp only [isContinuation_iff, secondFits_iff, low6, mark, tail_mod, UInt8.toNat_ofNat',
        Nat.reducePow] <;> omega

theorem Stands.decode_append (h : Stands p c) (bytes : List UInt8) :
    decode (p ++ bytes) = (c :: (decode bytes).1, (decode bytes).2) := by
  rw [decode.eq_def]
  cases h with
  | @one a first =>
    have ha : a < 0x80 := first
    simp [ha]
  | @two a b first second =>
    have ha : ¬ a < 0x80 := Nat.not_lt.mpr (Nat.le_trans (by decide) first.1)
    have hlow : 0xc2 ≤ a := first.1
    have hhigh : a < 0xe0 := first.2
    simp [ha, hlow, hhigh, second]
  | @three a b d first second third =>
    have ha : ¬ a < 0x80 := Nat.not_lt.mpr (Nat.le_trans (by decide) first.1)
    have htwo : ¬ a < 0xe0 := Nat.not_lt.mpr (Nat.le_trans (by decide) first.1)
    have hlow : 0xe0 ≤ a := first.1
    have hhigh : a < 0xf0 := first.2
    simp [ha, htwo, hlow, hhigh, second, third]
  | @four a b d e first second third fourth =>
    have ha : ¬ a < 0x80 := Nat.not_lt.mpr (Nat.le_trans (by decide) first.1)
    have htwo : ¬ a < 0xe0 := Nat.not_lt.mpr (Nat.le_trans (by decide) first.1)
    have hthree : ¬ a < 0xf0 := Nat.not_lt.mpr (Nat.le_trans (by decide) first.1)
    have hlow : 0xf0 ≤ a := first.1
    have hhigh : a < 0xf5 := first.2
    simp [ha, htwo, hthree, hlow, hhigh, second, third, fourth]

theorem decode_encode_append (cs : List Char) (bytes : List UInt8) :
    decode (encode cs ++ bytes) = (cs ++ (decode bytes).1, (decode bytes).2) := by
  induction cs with
  | nil => rfl
  | cons c cs ih =>
    rw [encode_cons, List.append_assoc, (stands_encodeChar c).decode_append, ih]; rfl

/-- Nothing is lost: what was read, encoded, and the rest are the bytes. -/
theorem encode_decode_append (bytes : List UInt8) :
    encode (decode bytes).1 ++ (decode bytes).2 = bytes := by
  have hread (p : List UInt8) (c : Char) (h : Stands p c) (cs : List Char) (rest r : List UInt8)
      (hr : decode r = (cs, rest)) (ih : encode (decode r).1 ++ (decode r).2 = r) :
      encode (c :: cs) ++ rest = p ++ r := by
    rw [hr] at ih
    rw [encode_cons, List.append_assoc, ih, h.encodeChar_eq]
  fun_induction decode bytes with
  | case2 a r ha cs rest hr ih => exact hread _ _ (.one ha) _ _ _ hr ih
  | case4 a ha b r hfirst hb cs rest hr ih =>
    simp only [Bool.and_eq_true, decide_eq_true_eq] at hfirst
    exact hread _ _ (.two hfirst hb) _ _ _ hr ih
  | case7 a ha b hsecond d r hfirst hbd cs rest hr ih =>
    simp only [Bool.and_eq_true, decide_eq_true_eq] at hfirst hbd
    exact hread _ _ (.three hfirst hbd.1 hbd.2) _ _ _ hr ih
  | case10 a ha b hsecond d hthird e r hfirst cs rest hr ih =>
    simp only [Bool.and_eq_true, decide_eq_true_eq] at hfirst
    obtain ⟨⟨⟨hfirst, hb⟩, hd⟩, he⟩ := hfirst
    exact hread _ _ (.four hfirst hb hd he) _ _ _ hr ih
  | _ => rfl

def IsText (bytes : List UInt8) : Prop := ∃ text : String, bytes = encode text.toList

def validLengths (bytes : List UInt8) : Set ℕ := {k | k ≤ bytes.length ∧ IsText (bytes.take k)}

theorem isText_encode (cs : List Char) : IsText (encode cs) :=
  ⟨String.ofList cs, by rw [String.toList_ofList]⟩

theorem decode_encode (cs : List Char) : decode (encode cs) = (cs, []) := by
  simpa [decode] using decode_encode_append cs []

theorem text?_encode (text : String) : text? (encode text.toList) = .ok text := by
  rw [text?, decode_encode]
  simp

theorem length_decode_le (bytes : List UInt8) : (decode bytes).2.length ≤ bytes.length := by
  conv_rhs => rw [← encode_decode_append bytes]
  exact (List.length_append ▸ Nat.le_add_left _ _)

/-- What is left unread starts where the longest prefix that encodes a text ends. -/
theorem isGreatest_validLengths (bytes : List UInt8) :
    IsGreatest (validLengths bytes) (bytes.length - (decode bytes).2.length) := by
  obtain ⟨cs, rest, hd, hbytes⟩ : ∃ cs rest, decode bytes = (cs, rest) ∧
    bytes = encode cs ++ rest :=
    ⟨_, _, rfl, (encode_decode_append bytes).symm⟩
  have hlength : bytes.length - rest.length = (encode cs).length := by
    rw [hbytes, List.length_append, Nat.add_sub_cancel]
  rw [hd, hlength]
  constructor
  · refine ⟨hlength ▸ Nat.sub_le _ _, ?_⟩
    rw [hbytes, List.take_left]
    exact isText_encode cs
  · rintro k ⟨hk, text, htext⟩
    have hrest : rest = (decode (bytes.drop k)).2 := by
      rw [← List.take_append_drop k bytes, htext, decode_encode_append] at hd
      exact (congrArg Prod.snd hd).symm
    have hle := length_decode_le (bytes.drop k)
    rw [← hrest, List.length_drop] at hle
    omega

theorem text?_eq_ok_iff : text? bytes = .ok text ↔ bytes = encode text.toList := by
  refine ⟨fun h => ?_, fun h => h ▸ text?_encode text⟩
  have hbytes := encode_decode_append bytes
  unfold text? at h
  split at h
  · next cs hcs =>
    cases h
    rw [hcs, List.append_nil] at hbytes
    rw [String.toList_ofList, hbytes]
  · cases h

theorem isGreatest_of_text?_eq_error (h : text? bytes = .error k) :
    IsGreatest (validLengths bytes) k := by
  have hgreatest := isGreatest_validLengths bytes
  unfold text? at h
  split at h
  · cases h
  · next cs rest _ hd =>
    cases h
    rwa [hd] at hgreatest

/-- Bytes that encode no text are refused with the length of their longest prefix that does. -/
theorem text?_eq_error_iff : text? bytes = .error k ↔ ¬ IsText bytes ∧
    IsGreatest (validLengths bytes) k := by
  constructor
  · intro h
    refine ⟨fun ⟨text, ht⟩ => ?_, isGreatest_of_text?_eq_error h⟩
    rw [text?_eq_ok_iff.mpr ht] at h
    cases h
  · rintro ⟨hnot, hk⟩
    cases h : text? bytes with
    | ok text => exact absurd ⟨text, text?_eq_ok_iff.mp h⟩ hnot
    | error valid => rw [hk.unique (isGreatest_of_text?_eq_error h)]

end LateBinding.Utf8
