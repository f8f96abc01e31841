import LateBinding.Eval

/-! # Methods of hashes -/

namespace LateBinding.HashMethod

open Eval

def arity : HashMethod → Arity
  | size | keys | values => .exactly 0
  | ref | hasKey | equal => .exactly 1
  | set => .exactly 2

def receiver (v : Value) : Eval Nat :=
  match v with
  | .hash r => pure r
  | other => wrongArgument other "Hash"

def run (m : HashMethod) (self : Value) (args : Args) : Eval Value := do
  check args m.arity
  let hash ← receiver self
  match m with
  | ref => return (← orEndless ((← heap).hashGet? hash (← arg args 0))).getD .nil
  | set =>
    let key ← arg args 0
    let value ← arg args 1
    let entries ← orEndless ((← heap).stored? hash key value)
    setHeap (·.setHash hash entries)
    return value
  | hasKey => return .bool (← orEndless ((← heap).hashGet? hash (← arg args 0))).isSome
  | size => return count ((← heap).hash hash).length
  | keys => newArray (((← heap).hash hash).map (·.1))
  | values => newArray (((← heap).hash hash).map (·.2))
  | equal => return .bool (← orEndless ((← heap).eql? none self (← arg args 0)))

end LateBinding.HashMethod
