import LateBinding.Strings
import LateBinding.Symbol.Table

/-! # Sets of symbol tables

Several tables side by side, each with a tag of its own, and the strings of all their symbols. -/

namespace LateBinding

structure Registry where
  tables : List SymbolTable
  strings : StringStore
  deriving DecidableEq

namespace Registry

/-- How a table starts. -/
inductive Start | empty | known
  deriving DecidableEq, Repr

def newTable (tag : Nat) : Start → SymbolTable
  | .empty => .empty tag
  | .known => .known tag

def ofStarts (starts : List Start) : Registry :=
  ⟨starts.mapIdx fun i start => newTable i start, .empty⟩

def table (r : Registry) (t : Nat) : SymbolTable := r.tables[t]?.getD (.empty t)

def setTable (r : Registry) (t : Nat) (table : SymbolTable) : Registry :=
  { r with tables := r.tables.set t table }

def intern (r : Registry) (t : Nat) (name : String) : Symbol × Registry :=
  let (s, table) := (r.table t).intern name
  (s, r.setTable t table)

/-- The registry is unchanged when the bytes are no text. -/
def internBytes (r : Registry) (t : Nat) (bytes : List UInt8) :
    Except SymbolError Symbol × Registry :=
  match (r.table t).internBytes bytes with
  | .ok (s, table) => (.ok s, r.setTable t table)
  | .error e => (.error e, r)

def lookup? (r : Registry) (t : Nat) (name : String) : Option Symbol := (r.table t).lookup? name

def require (r : Registry) (t : Nat) (name : String) : Except SymbolError Symbol :=
  (r.table t).require name

/-- The string of a symbol, whatever table made it. -/
def nameString (r : Registry) (s : Symbol) : Str × Registry :=
  let (str, strings) := r.strings.nameOf s
  (str, { r with strings := strings })

def hasName (r : Registry) (s : Symbol) : Bool := r.strings.hasName s

def setTracking (r : Registry) (t : Nat) (on : Bool) : Registry :=
  r.setTable t ((r.table t).setTracking on)

end Registry

end LateBinding
