import LateBinding.Dispatch
import LateBinding.Value.Display

/-! # Methods of all objects -/

namespace LateBinding.ObjectMethod

open Eval

def arity : ObjectMethod → Arity
  | inspect | toS | isNil => .exactly 0
  | equal | notEqual => .exactly 1
  | respondTo => .between 1 2

/-- The symbol that names a method. -/
def methodName : Value → Eval Symbol
  | .symbol s => pure s
  | .string s => intern s.text
  | other => do fail (.notAName (← orEndless ((← heap).inspect? other)))

def run (send : Sender) (m : ObjectMethod) (receiver : Value) (args : Args) : Eval Value := do
  check args m.arity
  match m with
  | inspect => newString (← orEndless ((← heap).inspect? receiver))
  | toS => newString (← orEndless ((← heap).display? receiver))
  | equal => return .bool ((← heap).same receiver (← arg args 0))
  | notEqual => return .bool (!(← send.byName receiver "==" args).isTruthy)
  | isNil => return .bool receiver.isNil
  | respondTo => return .bool (← respondsTo receiver (← methodName (← arg args 0)))

end LateBinding.ObjectMethod
