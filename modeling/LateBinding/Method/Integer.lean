import LateBinding.Eval

/-! # Methods of integers

Integers have 64 bits; a sum or a difference outside of them is a failure. Against a float an
integer counts as the float nearest to it. -/

namespace LateBinding.IntegerMethod

open Eval

def arity : IntegerMethod → Arity
  | toS | toI | succ => .exactly 0
  | plus | minus | equal | compare => .exactly 1

def receiver (v : Value) : Eval Int64 :=
  match v with
  | .integer n => pure n
  | other => wrongArgument other "Integer"

def bounded (n : Int) : Eval Value :=
  if IsWord n then pure (integer n) else fail .integerOverflow

/-- How a value that is no number is named. -/
def operandName : Value → String
  | .nil => "nil"
  | v => v.className

def run (m : IntegerMethod) (self : Value) (args : Args) : Eval Value := do
  check args m.arity
  let n ← receiver self
  match m with
  | toS => newString (toString n.toInt)
  | toI => return self
  | succ => bounded (n.toInt + 1)
  | plus =>
    match ← arg args 0 with
    | .integer k => bounded (n.toInt + k.toInt)
    | .float d => return .float ((Double.ofInt n).add d)
    | other => fail (.notCoercible (operandName other) "Integer")
  | minus =>
    match ← arg args 0 with
    | .integer k => bounded (n.toInt - k.toInt)
    | .float d => return .float ((Double.ofInt n).sub d)
    | other => fail (.notCoercible (operandName other) "Integer")
  | equal =>
    match ← arg args 0 with
    | .integer k => return .bool (n == k)
    | .float d => return .bool ((Double.ofInt n).numEq d)
    | _ => return .bool false
  | compare =>
    match ← arg args 0 with
    | .integer k => return ordering (Ord.compare n.toInt k.toInt)
    | .float d => return ((Double.ofInt n).order? d).elim .nil ordering
    | _ => return .nil

end LateBinding.IntegerMethod
