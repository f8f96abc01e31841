import LateBinding.Method.Array
import LateBinding.Method.Float
import LateBinding.Method.Hash
import LateBinding.Method.Integer
import LateBinding.Method.Match
import LateBinding.Method.Object
import LateBinding.Method.Proc
import LateBinding.Method.Symbol
import LateBinding.Method.System

/-! # Sending messages

A message runs the method that is found for it. Without one, an object reads the field of that name,
or writes the field whose name is followed by an equals sign. -/

namespace LateBinding

def Builtin.run (host : Host) (send : Sender) (b : Builtin) (receiver : Value) (args : Args) :
    Eval Value :=
  match b with
  | .object m => m.run send receiver args
  | .integer m => m.run receiver args
  | .float m => m.run receiver args
  | .string m => m.run send receiver args
  | .symbol m => m.run send receiver args
  | .array m => m.run send receiver args
  | .hash m => m.run receiver args
  | .proc m => m.run host send receiver args
  | .matched m => m.run send receiver args
  | .system m => m.run host.system send args

def Method.run (host : Host) (send : Sender) (m : Method) (receiver : Value) (args : Args) :
    Eval Value :=
  match m with
  | .builtin b => b.run host send receiver args
  | .native name => host.method name send receiver args

namespace Eval

/-- The name of the field that a message writes: what stands before a final equals sign. -/
def writtenField? (message : String) : Option String :=
  match message.toList.reverse with
  | '=' :: c :: r => some (String.ofList (c :: r).reverse)
  | _ => none

def missing (receiver : Value) (name : Symbol) : Eval Value :=
  fail (.noMethod name.name receiver.className)

/-- Reads or writes a field of an object. -/
def accessField (o : Object) (name : Symbol) (args : Args) : Eval Value := do
  match (← heap).field? o name with
  | some v =>
    check args (.exactly 0)
    return v
  | none =>
    match writtenField? name.name with
    | some field =>
      check args (.exactly 1)
      let v ← arg args 0
      let s ← intern field
      setHeap (·.setField o s v)
      return v
    | none => missing (.object o) name

/-- One send; `again` sends on from inside the method. -/
def dispatch (host : Host) (again : Sender) (receiver : Value) (name : Symbol) (args : Args) :
    Eval Value := do
  match ← findMethod receiver name with
  | some m => m.run host again receiver args
  | none =>
    match receiver with
    | .object o => accessField o name args
    | v => missing v name

/-- Sends with room for so many nested sends. -/
def sendWithin (host : Host) : Nat → Sender
  | 0, _, _, _ => throw .overflow
  | n + 1, receiver, name, args => dispatch host (sendWithin host n) receiver name args

end Eval

/-- Sends a message on the stack of the host. -/
def Host.send (host : Host) : Sender := Eval.sendWithin host host.stack

end LateBinding
