/-! # Runs of code points

A character class of the Unicode standard is a list of runs, in the order of their first code
points: the code points from one to another, all of them or those at equal distances. A mapping is a
list of runs, each moved by a constant. -/

namespace LateBinding.Unicode

structure Run where
  first : Nat
  last : Nat
  step : Nat
  deriving DecidableEq, Repr

def Run.contains (r : Run) (n : Nat) : Bool :=
  r.first ≤ n && n ≤ r.last && (n - r.first) % r.step == 0

/-- A gapless run for each pair of a first and a last code point. -/
def solid (bounds : List (Nat × Nat)) : List Run :=
  bounds.map fun (first, last) => ⟨first, last, 1⟩

/-- Whether a run has the character. No run that begins above it is looked at. -/
def inRuns : List Run → Char → Bool
  | [], _ => false
  | r :: rs, c => r.first ≤ c.toNat && (r.contains c.toNat || inRuns rs c)

/-- The code points of a run, each mapped to the one `shift` above it. -/
structure Shift where
  run : Run
  shift : Int
  deriving DecidableEq, Repr

/-- The image of a code point that some run holds. -/
def shifted? (shifts : List Shift) (n : Nat) : Option Nat :=
  (shifts.find? (·.run.contains n)).map fun s => (n + s.shift : Int).toNat

/-- The code points that are mapped to `n`. -/
def unshifted (shifts : List Shift) (n : Nat) : List Nat :=
  shifts.filterMap fun s =>
    let m := (n - s.shift : Int)
    if 0 ≤ m ∧ s.run.contains m.toNat then some m.toNat else none

end LateBinding.Unicode
