import LateBinding.Accounts.OperatingSystem
import LateBinding.Eval

/-! # Finding methods

The class of a value, the method that a message would run, and what native code is given. -/

namespace LateBinding

namespace Eval

/-- The symbol of the class of a value. An object knows it; for others the name is interned. -/
def classOf : Value → Eval Symbol
  | .object o => pure o.cls
  | v => intern v.className

/-- The method for a message: that of the class of the receiver, or else that of all objects. -/
def findMethod (receiver : Value) (name : Symbol) : Eval (Option Method) := do
  let cls ← classOf receiver
  let m ← get
  return (m.methods.get? cls name).or (m.methods.get? m.objectClass name)

/-- Whether a receiver has a field of that name. -/
def hasField (h : Heap) (receiver : Value) (name : Symbol) : Bool :=
  match receiver with
  | .object o => (h.field? o name).isSome
  | _ => false

/-- Whether a message would find a method or a field to read. -/
def respondsTo (receiver : Value) (name : Symbol) : Eval Bool := do
  match ← findMethod receiver name with
  | some _ => return true
  | none => return hasField (← heap) receiver name

def respondsToName (receiver : Value) (name : String) : Eval Bool := do
  respondsTo receiver (← intern name)

end Eval

/-- The way to send a message from inside a method. -/
abbrev Sender := Value → Symbol → Args → Eval Value

def Sender.byName (send : Sender) (receiver : Value) (name : String) (args : Args) :
    Eval Value := do
  send receiver (← Eval.intern name) args

/-- What the machine runs on: an operating system, native code by name, and a stack for so many
nested sends. -/
structure Host where
  system : OperatingSystem
  method : String → Sender → Value → Args → Eval Value
  block : String → Sender → List Value → Eval Value
  stack : Nat

end LateBinding
