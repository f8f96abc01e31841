import LateBinding.Value.Equality
import LateBinding.Error
import LateBinding.Number.Word

/-! # Arguments

The arguments of one call, and whether the last of them is the hash of keywords. -/

namespace LateBinding

structure Args where
  items : List Value
  keywords : Bool
  deriving DecidableEq

namespace Args

def empty : Args := ⟨[], false⟩

def positional (items : List Value) : Args := ⟨items, false⟩

def size (a : Args) : Nat := a.items.length

def get? (a : Args) (i : Nat) : Option Value := a.items[i]?

def getD (a : Args) (i : Nat) (default : Value) : Value := (a.get? i).getD default

/-- Fails unless the number of arguments is accepted. -/
def check (a : Args) (expected : Arity) : Except RunError Unit :=
  if expected.accepts a.size then .ok () else .error (.arity a.size expected)

/-- The arguments but the first. The last one takes the keyword mark with it. `none` when there are
none. -/
def shift? (a : Args) : Option Args :=
  match a.items with
  | [] => none
  | [_] => some empty
  | _ :: rest => some ⟨rest, a.keywords⟩

/-- The value of a keyword, if the last argument is a hash of keywords that has it. To look a symbol
up always ends. -/
def keyword? (a : Args) (h : Heap) (name : Symbol) : Option Value :=
  if a.keywords then
    match a.items.getLast? with
    | some (.hash ref) => (h.hashGet? ref (.symbol name)).join
    | _ => none
  else none

/-- The most values that a list of arguments has room for: 24 bytes each, in a word of bytes. -/
def room : Nat := (wordBound - 1) / 24

/-- The items and `nil`s up to `min`; `none` when there is no room for as many. -/
def padded? (min : Nat) (items : List Value) : Option (List Value) :=
  if items.length < min ∧ room < min then none
  else some (items ++ List.replicate (min - items.length) .nil)

/-- The first `max` items, filled up with `nil` to `min`. -/
def fitted? (min : Nat) (max : Option Nat) (items : List Value) : Option (List Value) :=
  padded? min (match max with | some m => items.take m | none => items)

/-- The items of a spread array: cut down to `max`, or else filled up to `min`. -/
def spreadOut? (min : Nat) (max : Option Nat) (items : List Value) : Option (List Value) :=
  match max with
  | some m => if m < items.length then some (items.take m) else padded? min items
  | none => padded? min items

end Args

end LateBinding
