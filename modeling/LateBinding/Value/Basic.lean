import LateBinding.Entries
import LateBinding.Match
import LateBinding.Number.DoubleText
import LateBinding.Strings
import LateBinding.Symbol.Display

/-! # Values and the heap

Scalars are values by themselves. Arrays, hashes and objects are references to contents on the heap,
which all holders of the reference share. -/

namespace LateBinding

/-- Native code with the window of its parameters; without `max` it takes any number of them. With
`spread`, a single array argument is spread over the parameters. -/
structure Block where
  min : Nat
  max : Option Nat
  spread : Bool
  /-- The name under which the host keeps the code. -/
  code : String
  deriving DecidableEq, Repr

inductive ProcBody
  /-- Sends the name to the first argument. -/
  | send (name : Symbol)
  | block (b : Block)
  deriving DecidableEq, Repr

structure Proc where
  id : Nat
  body : ProcBody
  isLambda : Bool
  deriving DecidableEq, Repr

structure Object where
  ref : Nat
  cls : Symbol
  deriving DecidableEq, Repr

inductive Value
  | nil
  | bool (b : Bool)
  | integer (n : Int64)
  | float (d : Double)
  | string (s : Str)
  | symbol (s : Symbol)
  | array (ref : Nat)
  | hash (ref : Nat)
  | regexp (r : Regexp)
  | matched (m : Match)
  | proc (p : Proc)
  | object (o : Object)
  deriving DecidableEq

namespace Value

/-- All but `nil` and `false`. -/
def isTruthy : Value → Bool
  | nil | bool false => false
  | _ => true

def isNil : Value → Bool
  | nil => true
  | _ => false

def className : Value → String
  | nil => "NilClass"
  | bool true => "TrueClass"
  | bool false => "FalseClass"
  | integer _ => "Integer"
  | float _ => "Float"
  | string _ => "String"
  | symbol _ => "Symbol"
  | array _ => "Array"
  | hash _ => "Hash"
  | regexp _ => "Regexp"
  | matched _ => "MatchData"
  | proc _ => "Proc"
  | object o => o.cls.name

end Value

structure Heap where
  strings : StringStore
  arrays : Array (List Value)
  hashes : Array (List (Value × Value))
  objects : Array (List (Symbol × Value))
  /-- The next identity of a regexp, a match or a proc. -/
  next : Nat
  /-- Where in memory a proc lies, by its identity. -/
  address : Nat → Nat

namespace Heap

def empty : Heap := ⟨.empty, #[], #[], #[], 0, id⟩

def array (h : Heap) (ref : Nat) : List Value := h.arrays[ref]?.getD []

def hash (h : Heap) (ref : Nat) : List (Value × Value) := h.hashes[ref]?.getD []

def fields (h : Heap) (o : Object) : List (Symbol × Value) := h.objects[o.ref]?.getD []

def newString (h : Heap) (text : String) : Str × Heap :=
  let (s, strings) := h.strings.new text
  (s, { h with strings := strings })

/-- The string of a symbol, the same one each time. -/
def nameString (h : Heap) (s : Symbol) : Str × Heap :=
  let (str, strings) := h.strings.nameOf s
  (str, { h with strings := strings })

def newArray (h : Heap) (items : List Value) : Nat × Heap :=
  (h.arrays.size, { h with arrays := h.arrays.push items })

def setArray (h : Heap) (ref : Nat) (items : List Value) : Heap :=
  { h with arrays := h.arrays.setIfInBounds ref items }

def newHash (h : Heap) (entries : List (Value × Value)) : Nat × Heap :=
  (h.hashes.size, { h with hashes := h.hashes.push entries })

def setHash (h : Heap) (ref : Nat) (entries : List (Value × Value)) : Heap :=
  { h with hashes := h.hashes.setIfInBounds ref entries }

/-- Of several fields with one name the first gives the place and the last the value. -/
def newObject (h : Heap) (cls : Symbol) (fields : List (Symbol × Value)) : Object × Heap :=
  let record := fields.foldl (fun es (k, v) => Entries.put (·.same k) k v es) []
  (⟨h.objects.size, cls⟩, { h with objects := h.objects.push record })

def field? (h : Heap) (o : Object) (name : Symbol) : Option Value :=
  Entries.get? (·.same name) (h.fields o)

def setField (h : Heap) (o : Object) (name : Symbol) (v : Value) : Heap :=
  { h with
    objects := h.objects.setIfInBounds o.ref (Entries.put (·.same name) name v (h.fields o)) }

/-- An identity for a regexp, a match or a proc. -/
def fresh (h : Heap) : Nat × Heap := (h.next, { h with next := h.next + 1 })

/-- No chain of distinct containers, each holding the next, is longer. -/
def depth (h : Heap) : Nat := h.arrays.size + h.hashes.size + h.objects.size

end Heap

end LateBinding
