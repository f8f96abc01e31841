import LateBinding.Symbol.Basic

/-! # Strings

A string is a text with an identity: two strings can read the same and be two. Each symbol has one
string of its own, made when it is first asked for. -/

namespace LateBinding

structure Str where
  id : Nat
  text : String
  deriving DecidableEq, Repr

def Str.chars (s : Str) : List Char := s.text.toList

/-- The identities given out, and the strings of the symbols that have been asked for theirs. -/
structure StringStore where
  next : Nat
  names : List (SymbolId × Str)
  deriving DecidableEq, Repr

namespace StringStore

def empty : StringStore := ⟨0, []⟩

/-- A string that was not there before. -/
def new (st : StringStore) (text : String) : Str × StringStore :=
  (⟨st.next, text⟩, { st with next := st.next + 1 })

def name? (st : StringStore) (s : Symbol) : Option Str := st.names.lookup s.id

def hasName (st : StringStore) (s : Symbol) : Bool := (st.name? s).isSome

/-- The string of a symbol: made once, the same from then on. -/
def nameOf (st : StringStore) (s : Symbol) : Str × StringStore :=
  match st.name? s with
  | some str => (str, st)
  | none =>
    let (str, st) := st.new s.name
    (str, { st with names := (s.id, str) :: st.names })

end StringStore

end LateBinding
