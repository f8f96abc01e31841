import LateBinding.Conversion

/-! # Methods of procs

A proc made from a symbol sends the symbol to its first argument. A native block has its parameters
bound loosely, unless it is a lambda, which checks the number of its arguments like a method. -/

namespace LateBinding

namespace Block

/-- The number of arguments that a lambda accepts. -/
def window (b : Block) : Arity :=
  match b.max with
  | some max => if max = b.min then .exactly max else .between b.min max
  | none => .atLeast b.min

/-- The required number, as far as 64 bits hold it, when it is the only one; otherwise one less than
its negative, unless it has none. -/
def arity? (b : Block) : Option Int64 :=
  let required := Int64.ofNat b.min
  if b.max = some b.min then some required
  else if required = Int64.minValue then none
  else some (-required - 1)

end Block

namespace Proc

def arity? (p : Proc) : Option Int64 :=
  match p.body with
  | .send _ => some (-2)
  | .block b => b.arity?

end Proc

namespace Eval

/-- The parameters that the body of a block is given. -/
def parameters (send : Sender) (isLambda : Bool) (b : Block) (args : Args) : Eval (List Value) := do
  if isLambda then
    check args b.window
    return args.items
  else bindBlock send args b.min b.max b.spread

def callProc (host : Host) (send : Sender) (p : Proc) (args : Args) : Eval Value := do
  match p.body with
  | .send name =>
    check args (.atLeast 1)
    send (← arg args 0) name (← shift args)
  | .block b => host.block b.code send (← parameters send p.isLambda b args)

end Eval

namespace ProcMethod

open Eval

/-- Calling leaves the arguments to the proc. -/
def arity? : ProcMethod → Option Arity
  | call => none
  | arity | isLambda | toProc => some (.exactly 0)

def receiver (v : Value) : Eval Proc :=
  match v with
  | .proc p => pure p
  | other => wrongArgument other "Proc"

def run (host : Host) (send : Sender) (m : ProcMethod) (self : Value) (args : Args) :
    Eval Value := do
  if let some a := m.arity? then check args a
  let p ← receiver self
  match m with
  | call => callProc host send p args
  | arity => return .integer (← orPanic p.arity?)
  | isLambda => return .bool p.isLambda
  | toProc => return self

end ProcMethod

end LateBinding
