import LateBinding.Number.Double
import LateBinding.Number.Shortest

/-! # The text of a binary64 number

Whole numbers below ten to the sixteenth are written in full with one zero after the point. All
others are written in the fewest digits that read back, never with an exponent, and with a point
only before digits. -/

namespace LateBinding.Double

def zeros (n : Nat) : List Char := List.replicate n '0'

/-- A decimal in positional notation. -/
def positional (d : Decimal) : List Char :=
  let digits := (toString d.digits).toList
  if 0 ≤ d.exponent then digits ++ zeros d.exponent.toNat
  else
    let places := (-d.exponent).toNat
    if digits.length ≤ places then '0' :: '.' :: (zeros (places - digits.length) ++ digits)
    else digits.take (digits.length - places) ++ '.' :: digits.drop (digits.length - places)

/-- The interval of rounding of a finite number. -/
def target (d : Double) (m : Nat) (q : Int) : Shortest.Target :=
  ⟨m, q, m == 0x10000000000000 && 1 < d.exponentField⟩

/-- The bound from which on a whole number is written without a point. -/
def pointBound : Nat := 10000000000000000

def unsignedChars (d : Double) (m : Nat) (q : Int) : List Char :=
  if isWhole m q && wholePart m q < pointBound then (toString (wholePart m q)).toList ++ ['.', '0']
  else positional (d.target m q).decimal

def toText (d : Double) : String :=
  let sign := if d.isNegative then ['-'] else []
  match d.magnitude with
  | .nan => "NaN"
  | .infinite => String.ofList (sign ++ "Infinity".toList)
  | .finite m q => String.ofList (sign ++ d.unsignedChars m q)

end LateBinding.Double
