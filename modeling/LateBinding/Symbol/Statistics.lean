import LateBinding.Number.Double

/-! # Interner statistics -/

namespace LateBinding

structure InternerStats where
  count : Nat
  capacity : Nat
  hits : Nat
  misses : Nat
  deriving DecidableEq, Repr

namespace InternerStats

/-- The number of counted interning operations; `none` when 64 bits do not hold it. -/
def total? (s : InternerStats) : Option Nat :=
  if s.hits + s.misses < UInt64.size then some (s.hits + s.misses) else none

/-- A share of nothing is zero. -/
def ratio (part whole : Nat) : Double :=
  if whole = 0 then ⟨0⟩ else (Double.ofNat part).div (Double.ofNat whole)

def loadFactor (s : InternerStats) : Double := ratio s.count s.capacity

def hitRate? (s : InternerStats) : Option Double := s.total?.map (ratio s.hits)

end InternerStats

end LateBinding
