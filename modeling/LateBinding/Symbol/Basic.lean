import LateBinding.Text.Order

/-! # Symbols

A symbol is an interned name. Its identity is the table that made it and its place there, and two
symbols are the same one only when their identities agree; the name is what it displays. -/

namespace LateBinding

structure SymbolId where
  table : Nat
  place : Nat
  deriving DecidableEq, Repr

structure Symbol where
  id : SymbolId
  name : String
  deriving DecidableEq, Repr

namespace Symbol

/-- Identity. -/
def same (a b : Symbol) : Bool := a.id == b.id

def length (s : Symbol) : Nat := s.name.toList.length

def byteSize (s : Symbol) : Nat := s.name.utf8ByteSize

/-- The order of the names. -/
def compareNames (a b : Symbol) : Ordering := TextOrder.compare a.name b.name

def compareCaseless (a b : Symbol) : Ordering := TextOrder.compareCaseless a.name b.name

def eqCaseless (a b : Symbol) : Bool := TextOrder.eqCaseless a.name b.name

end Symbol

end LateBinding
