/-! # Recursion that may not end

Values can hold themselves, and what goes round in them never ends. Such a recursion is given by one
step, which answers from the answers of what it goes on to, and is unrolled as deep as it can go
without coming back to where it has been. What never ends has no answer. -/

namespace LateBinding

universe u v

/-- The answer of a recursion that goes at most `depth` steps down; none where it would go on. -/
def unroll {ι : Type u} {β : Type v} (step : (ι → Option β) → ι → Option β) : Nat → ι → Option β
  | 0 => step fun _ => none
  | depth + 1 => step (unroll step depth)

/-- Whether all items pass a test. The first that does not, or whose test never ends, is the last
one looked at. -/
def all? {α : Type u} (test : α → Option Bool) : List α → Option Bool
  | [] => some true
  | a :: as =>
    match test a with
    | some true => all? test as
    | answer => answer

end LateBinding
