import LateBinding.Dispatch

/-! # Implicit conversions

A value of the wanted kind is taken as it is; any other is asked for one by a message, and the
answer is checked. -/

namespace LateBinding.Eval

/-- How a value is named when there is no conversion for it. -/
def implicitName : Value → String
  | .nil => "nil"
  | .bool b => if b then "true" else "false"
  | v => v.className

def badConversion {α : Type} (v answer : Value) (target method : String) : Eval α :=
  fail (.badConversion v.className target method answer.className)

/-- A new array around a value. -/
def wrap (v : Value) : Eval Nat := onHeap (·.newArray [v])

/-- The array that a value stands for: itself, the one it answers to `to_ary`, or a new one around
it. -/
def toAry (send : Sender) (v : Value) (strict : Bool) : Eval Nat := do
  match v with
  | .array ref => return ref
  | v =>
    if ← respondsToName v "to_ary" then
      match ← send.byName v "to_ary" .empty with
      | .array ref => return ref
      | .nil => wrap v
      | other => if strict then badConversion v other "Array" "to_ary" else wrap v
    else wrap v

/-- The string that a value stands for: itself or the one it answers to `to_str`. -/
def toStr (send : Sender) (v : Value) : Eval Str := do
  match v with
  | .string s => return s
  | v =>
    if ← respondsToName v "to_str" then
      match ← send.byName v "to_str" .empty with
      | .string s => return s
      | other => badConversion v other "String" "to_str"
    else fail (.noConversion (implicitName v) "String")

/-- The integer that a value stands for: itself or the one it answers to `to_int`, but none for
`nil`. -/
def toInt (send : Sender) (v : Value) : Eval Int64 := do
  match v with
  | .integer n => return n
  | .nil => fail .nilToInteger
  | v =>
    if ← respondsToName v "to_int" then
      match ← send.byName v "to_int" .empty with
      | .integer n => return n
      | other => badConversion v other "Integer" "to_int"
    else fail (.noConversion (implicitName v) "Integer")

/-- The parameters of a block that is called with these arguments. -/
def bindBlock (send : Sender) (args : Args) (min : Nat) (max : Option Nat) (spread : Bool) :
    Eval (List Value) := do
  match spread, args.items with
  | true, [v] =>
    let ref ← toAry send v true
    orPanic (Args.spreadOut? min max ((← heap).array ref))
  | _, items => orPanic (Args.fitted? min max items)

end LateBinding.Eval
