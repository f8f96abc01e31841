/-! # Words

Integers have 64 bits, the first of them for the sign, and so have the counts that are made into
integers.
-/

namespace LateBinding

/-- The 63rd power of two: words are below it, and not below its negation. -/
def wordBound : Nat := 0x8000000000000000

def IsWord (n : Int) : Prop := -wordBound ≤ n ∧ n < wordBound

instance (n : Int) : Decidable (IsWord n) := inferInstanceAs (Decidable (_ ∧ _))

end LateBinding
