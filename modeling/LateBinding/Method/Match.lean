import LateBinding.Conversion

/-! # Methods of matches -/

namespace LateBinding.MatchMethod

open Eval

def arity : MatchMethod → Arity
  | ref | offset => .exactly 1
  | toS | pre | post | captures => .exactly 0

def receiver (v : Value) : Eval Match :=
  match v with
  | .matched m => pure m
  | other => wrongArgument other "MatchData"

/-- The place of a group that is counted from the end when negative. -/
def groupAt (m : Match) (i : Int64) : Eval (Option String) := do
  let n ← if i.toInt < 0 then sum i.toInt m.size else pure i.toInt
  return if 0 ≤ n then m.get? n.toNat else none

/-- The group that a selector picks, by name or by number. -/
def select (send : Sender) (m : Match) : Value → Eval (Option String)
  | .string s => pure (m.named? s.text)
  | .symbol s => pure (m.named? s.name)
  | other => do groupAt m (← toInt send other)

/-- The characters before the group of that number, which must be one of the match. -/
def offsetOf (m : Match) (i : Int64) : Eval Value := do
  if 0 ≤ i.toInt ∧ i.toInt < m.size then
    match ← orPanic (m.begin? i.toInt.toNat) with
    | some n => return count n
    | none => return .nil
  else fail (.noSuchMatch i.toInt)

/-- A new array of new strings, with `nil` for the groups that took no part. -/
def texts : List (Option String) → Eval (List Value)
  | [] => return []
  | t :: rest => do
    let v ← optionalString t
    return v :: (← texts rest)

def run (send : Sender) (m : MatchMethod) (self : Value) (args : Args) : Eval Value := do
  check args m.arity
  let found ← receiver self
  match m with
  | ref => optionalString (← select send found (← arg args 0))
  | toS => newString found.matched
  | pre => newString (← orPanic found.pre?)
  | post => newString (← orPanic found.post?)
  | captures => newArray (← texts found.captures)
  | offset => offsetOf found (← toInt send (← arg args 0))

end LateBinding.MatchMethod
