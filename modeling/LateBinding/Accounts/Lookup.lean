/-! # Looking up with a growing buffer

A look-up in a system database copies its answer into a buffer of the caller. It is repeated with a
buffer of twice the size as long as the answer does not fit, up to a largest size; the last code
then decides. -/

namespace LateBinding.Accounts

/-- What a call answers: a code, zero when it went well, and the entry if there is one. -/
structure Reply (α : Type) where
  code : Int
  entry : Option α
  deriving DecidableEq, Repr

/-- The code of a buffer that is too small. -/
def tooSmall : Int := 34

/-- The codes that some systems use for a missing entry. -/
def missingCodes : List Int := [2, 3, 9, 1]

def firstSize : Nat := 1024

def largestSize : Nat := 0x100000

/-- What a final reply means: an entry, none, or the code of a failed call. -/
def Reply.outcome {α : Type} (r : Reply α) : Except Int (Option α) :=
  if r.code ∈ missingCodes then .ok none
  else if r.code = 0 then .ok r.entry
  else .error r.code

/-- Calls with a buffer of the given size, and again with twice the size while it is too small. -/
def lookupFrom {m : Type → Type} [Monad m] {α : Type} (call : Nat → m (Reply α)) (size : Nat)
    (pos : 0 < size) : m (Except Int (Option α)) := do
  let r ← call size
  if h : r.code = tooSmall ∧ size < largestSize then lookupFrom call (2 * size) (by omega)
  else pure r.outcome
termination_by largestSize - size

def lookup {m : Type → Type} [Monad m] {α : Type} (call : Nat → m (Reply α)) :
    m (Except Int (Option α)) :=
  lookupFrom call firstSize (by decide)

end LateBinding.Accounts
