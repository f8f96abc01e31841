import LateBinding.Text.Utf8

/-! # Order of texts

Texts are compared by their UTF-8 bytes, as they are or with the ASCII capitals lowered. -/

namespace LateBinding.TextOrder

/-- The first differing byte decides; a proper start comes first. -/
def compareBytes : List UInt8 → List UInt8 → Ordering
  | [], [] => .eq
  | [], _ :: _ => .lt
  | _ :: _, [] => .gt
  | a :: as, b :: bs => if a < b then .lt else if b < a then .gt else compareBytes as bs

theorem compareBytes_eq_iff {as bs : List UInt8} : compareBytes as bs = .eq ↔ as = bs := by
  fun_induction compareBytes as bs with
  | case1 => simp
  | case2 => simp
  | case3 => simp
  | case4 a as b bs lt =>
    simp only [reduceCtorEq, List.cons.injEq, false_iff, not_and]
    rintro rfl
    exact absurd lt (UInt8.lt_irrefl a)
  | case5 a as b bs _ gt =>
    simp only [reduceCtorEq, List.cons.injEq, false_iff, not_and]
    rintro rfl
    exact absurd gt (UInt8.lt_irrefl a)
  | case6 a as b bs nlt ngt ih =>
    simp only [ih, List.cons.injEq, iff_and_self]
    intro _
    exact UInt8.le_antisymm (UInt8.not_lt.1 ngt) (UInt8.not_lt.1 nlt)

def lowerByte (b : UInt8) : UInt8 :=
  if 0x41 ≤ b && b ≤ 0x5a then b + 0x20 else b

def compare (a b : String) : Ordering :=
  compareBytes (Utf8.encode a.toList) (Utf8.encode b.toList)

def compareCaseless (a b : String) : Ordering :=
  compareBytes ((Utf8.encode a.toList).map lowerByte) ((Utf8.encode b.toList).map lowerByte)

/-- Whether two byte sequences agree position by position once the capitals are lowered. -/
def sameCaseless : List UInt8 → List UInt8 → Bool
  | [], [] => true
  | a :: as, b :: bs => lowerByte a == lowerByte b && sameCaseless as bs
  | _, _ => false

def eqCaseless (a b : String) : Bool :=
  sameCaseless (Utf8.encode a.toList) (Utf8.encode b.toList)

end LateBinding.TextOrder
