import LateBinding.Number.Word

/-! # Binary64 numbers

A number is its 64 bits, so that every pattern, each NaN among them, is a value of its own. Exact
work is done on the integer and the power of two that the bits stand for. -/

namespace LateBinding

structure Double where
  bits : UInt64
  deriving DecidableEq, Repr

/-- What the bits stand for, up to sign: `finite m q` is `m * 2 ^ q`. -/
inductive Magnitude
  | nan
  | infinite
  | finite (m : Nat) (q : Int)
  deriving DecidableEq, Repr

namespace Double

def isNegative (d : Double) : Bool := wordBound ≤ d.bits.toNat

def exponentField (d : Double) : Nat := (d.bits.toNat >>> 52) % 0x800

def fractionField (d : Double) : Nat := d.bits.toNat % 0x10000000000000

def magnitude (d : Double) : Magnitude :=
  if d.exponentField = 2047 then
    if d.fractionField = 0 then .infinite else .nan
  else if d.exponentField = 0 then .finite d.fractionField (-1074)
  else .finite (d.fractionField + 0x10000000000000) (d.exponentField - 1075)

/-- The integer part of `m * 2 ^ q`. -/
def wholePart (m : Nat) (q : Int) : Nat :=
  if 0 ≤ q then m <<< q.toNat else m >>> (-q).toNat

def isWhole (m : Nat) (q : Int) : Bool :=
  0 ≤ q || m % (1 <<< (-q).toNat) == 0

/-- The number without its fraction; `none` unless finite. -/
def truncate? (d : Double) : Option Int :=
  match d.magnitude with
  | .finite m q =>
    let n : Int := wholePart m q
    some (if d.isNegative then -n else n)
  | _ => none

def toFloat (d : Double) : Float := Float.ofBits d.bits

def ofFloat (x : Float) : Double := ⟨x.toBits⟩

/-- The double nearest to an integer. -/
def ofInt (n : Int64) : Double := ofFloat n.toFloat

/-- The double nearest to a natural number. -/
def ofNat (n : Nat) : Double := ofFloat n.toUInt64.toFloat

def add (a b : Double) : Double := ofFloat (a.toFloat + b.toFloat)

def sub (a b : Double) : Double := ofFloat (a.toFloat - b.toFloat)

def div (a b : Double) : Double := ofFloat (a.toFloat / b.toFloat)

/-- Equality of numbers: the two zeros are equal and a NaN is equal to nothing. -/
def numEq (a b : Double) : Bool := a.toFloat == b.toFloat

/-- The order of two numbers; `none` when one is a NaN. -/
def order? (a b : Double) : Option Ordering :=
  if a.toFloat < b.toFloat then some .lt
  else if a.numEq b then some .eq
  else if b.toFloat < a.toFloat then some .gt
  else none

end Double

end LateBinding
