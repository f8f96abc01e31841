import LateBinding.Conversion

/-! # Methods of arrays -/

namespace LateBinding.ArrayMethod

open Eval

/-- Adding takes any number of arguments. -/
def arity? : ArrayMethod → Option Arity
  | toAry | size | first | last | dup => some (.exactly 0)
  | ref | equal => some (.exactly 1)
  | push => none

def receiver (v : Value) : Eval Nat :=
  match v with
  | .array r => pure r
  | other => wrongArgument other "Array"

/-- The place of an index that is counted from the end when negative; `none` outside of the
array. -/
def place (i : Int64) (size : Nat) : Eval (Option Nat) := do
  let n ← if i.toInt < 0 then sum i.toInt size else pure i.toInt
  return if 0 ≤ n ∧ n < size then some n.toNat else none

/-- The item at a place, which must be there, or `nil` at no place. -/
def itemAt (items : List Value) : Option Nat → Eval Value
  | some i => orPanic items[i]?
  | none => pure .nil

def run (send : Sender) (m : ArrayMethod) (self : Value) (args : Args) : Eval Value := do
  if let some a := m.arity? then check args a
  let array ← receiver self
  match m with
  | toAry => return self
  | size => return count ((← heap).array array).length
  | ref =>
    let i ← toInt send (← arg args 0)
    let items := (← heap).array array
    itemAt items (← place i items.length)
  | first => return ((← heap).array array).head?.getD .nil
  | last => return ((← heap).array array).getLast?.getD .nil
  | dup => newArray ((← heap).array array)
  | push =>
    setHeap fun h => h.setArray array (h.array array ++ args.items)
    return self
  | equal => return .bool (← orEndless ((← heap).eql? none self (← arg args 0)))

end LateBinding.ArrayMethod
