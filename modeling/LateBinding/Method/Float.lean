import LateBinding.Eval

/-! # Methods of floats -/

namespace LateBinding.FloatMethod

open Eval

def arity : FloatMethod → Arity
  | toS | toI => .exactly 0
  | equal => .exactly 1

def receiver (v : Value) : Eval Double :=
  match v with
  | .float d => pure d
  | other => wrongArgument other "Float"

/-- The integer part, if there is one of 64 bits. -/
def wholeNumber (d : Double) : Eval Value :=
  match d.truncate? with
  | some n =>
    if IsWord n then pure (integer n) else fail (.outOfInteger d.toText)
  | none => fail (.outOfInteger d.toText)

def run (m : FloatMethod) (self : Value) (args : Args) : Eval Value := do
  check args m.arity
  let d ← receiver self
  match m with
  | toS => newString d.toText
  | toI => wholeNumber d
  | equal =>
    match ← arg args 0 with
    | .float e => return .bool (d.numEq e)
    | .integer n => return .bool (d.numEq (Double.ofInt n))
    | _ => return .bool false

end LateBinding.FloatMethod
