import LateBinding.Unrolling
import LateBinding.Value.Basic

/-! # Display of values

The literal form shows containers with the literal forms of their parts; a value that holds itself
has none, since showing it never ends. The display form is the text of a string or a symbol, nothing
for `nil`, and the literal form for most others. -/

namespace LateBinding.Heap

def hexDigits (n : Nat) : String := String.ofList (Nat.toDigits 16 n)

def inspectProc (h : Heap) (p : Proc) : String :=
  "#<Proc:0x" ++ hexDigits (h.address p.id) ++ (if p.isLambda then " (lambda)" else "") ++ ">"

/-- Parts with a comma and a blank between them. -/
def commaList : List String → String
  | [] => ""
  | [part] => part
  | part :: parts => part ++ ", " ++ commaList parts

/-- The text of an object from the names of its fields and the texts of what they hold. -/
def objectText (cls : String) : List (String × String) → String
  | [] => "#<" ++ cls ++ ">"
  | fields =>
    "#<" ++ cls ++ " " ++ commaList (fields.map fun (name, text) => name ++ "=" ++ text) ++ ">"

/-- The literal form of a value from those of its parts. -/
def literal? (h : Heap) (text : Value → Option String) : Value → Option String
  | .nil => some "nil"
  | .bool b => some (if b then "true" else "false")
  | .integer n => some (toString n.toInt)
  | .float d => some d.toText
  | .string s => some (quote s.text)
  | .symbol s => some s.inspect
  | .array ref => do return "[" ++ commaList (← (h.array ref).mapM text) ++ "]"
  | .hash ref => do
    let entries ← (h.hash ref).mapM fun (k, v) => do return (← text k) ++ " => " ++ (← text v)
    return "\x7b" ++ commaList entries ++ "\x7d"
  | .regexp r => some ("/" ++ r.source ++ "/")
  | .matched m => some m.inspect
  | .proc p => some (h.inspectProc p)
  | .object o => do
    return objectText o.cls.name (← (h.fields o).mapM fun (k, v) => do return (k.name, ← text v))

/-- The literal form, unless the value holds itself. -/
def inspect? (h : Heap) (v : Value) : Option String := unroll h.literal? h.depth v

def display? (h : Heap) : Value → Option String
  | .nil => some ""
  | .string s => some s.text
  | .symbol s => some s.name
  | .regexp r => some ("(?-mix:" ++ r.source ++ ")")
  | .matched m => some m.matched
  | v => h.inspect? v

end LateBinding.Heap
