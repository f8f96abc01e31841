/-! # Shortest decimal

The decimal with the fewest digits that still rounds to a given binary number, and of those the
nearest. Grids of decreasing powers of ten are tried; on each, the number has two neighbours, and
the first grid with a neighbour inside the interval of rounding decides. -/

namespace LateBinding

/-- The number `digits * 10 ^ exponent`. -/
structure Decimal where
  digits : Nat
  exponent : Int
  deriving DecidableEq, Repr

namespace Shortest

def scaleUp (base : Nat) (e : Int) : Nat := base.pow e.toNat

/-- The binary number `m * 2 ^ q` with the interval of the reals that round to it. The distance to
the lower end is half the distance to the number below, which is smaller where the exponent
changes. -/
structure Target where
  m : Nat
  q : Int
  tight : Bool

/-- The number in quarters of its last binary place. -/
def Target.centre (t : Target) : Nat := 4 * t.m

def Target.low (t : Target) : Nat := 4 * t.m - (if t.tight then 1 else 2)

def Target.high (t : Target) : Nat := 4 * t.m + 2

/-- `x` quarters of the last binary place and `n` tens to the `k`, both times one positive
factor. -/
def Target.quarters (t : Target) (k : Int) (x : Nat) : Nat :=
  x * scaleUp 2 (t.q - 2) * scaleUp 10 (-k)

def Target.tens (t : Target) (k : Int) (n : Nat) : Nat :=
  n * scaleUp 10 k * scaleUp 2 (2 - t.q)

/-- Whether `n * 10 ^ k` rounds to the number: the ends of the interval count when `m` is even. -/
def Target.accepts (t : Target) (k : Int) (n : Nat) : Bool :=
  let x := t.tens k n
  let lo := t.quarters k t.low
  let hi := t.quarters k t.high
  if t.m % 2 = 0 then lo ≤ x && x ≤ hi else lo < x && x < hi

/-- The neighbour of the number on the grid of `10 ^ k` that reads back; of two the nearer, the
upper one at equal distance. -/
def Target.onGrid? (t : Target) (k : Int) : Option Nat :=
  let c := t.quarters k t.centre
  let n := c / t.tens k 1
  match t.accepts k n, t.accepts k (n + 1) with
  | true, true => if c - t.tens k n < t.tens k (n + 1) - c then some n else some (n + 1)
  | true, false => some n
  | false, true => some (n + 1)
  | false, false => none

/-- The value itself, with all its digits. -/
def Target.exact (t : Target) : Decimal :=
  if 0 ≤ t.q then ⟨t.m * scaleUp 2 t.q, 0⟩ else ⟨t.m * scaleUp 5 (-t.q), t.q⟩

def Target.search (t : Target) : Nat → Int → Decimal
  | 0, _ => t.exact
  | grids + 1, k =>
    match t.onGrid? k with
    | some n => ⟨n, k⟩
    | none => t.search grids (k - 1)

/-- A power of ten above the number. -/
def Target.topExponent (t : Target) : Int :=
  let e : Int := t.m.log2 + 2 + t.q
  if 0 ≤ e then e * 302 / 1000 + 1 else e * 301 / 1000 + 1

/-- Eighteen digits always suffice; the other grids make up for the rough start. -/
def Target.decimal (t : Target) : Decimal :=
  t.search 24 t.topExponent

end Shortest

end LateBinding
