import LateBinding.Args
import LateBinding.Config.Basic
import LateBinding.Method.Registry
import LateBinding.Symbol.Table

/-! # The machine

The state of a running program: its symbols, its methods, the heap, and the register of the last
match. Methods are found by the identities of a class symbol and a name symbol. -/

namespace LateBinding

structure MethodTable where
  entries : List ((Symbol × Symbol) × Method)
  deriving DecidableEq

namespace MethodTable

def empty : MethodTable := ⟨[]⟩

/-- Whether a key is the one of this class and this name. -/
def isAt (cls name : Symbol) (key : Symbol × Symbol) : Bool := key.1.same cls && key.2.same name

def get? (t : MethodTable) (cls name : Symbol) : Option Method :=
  Entries.get? (isAt cls name) t.entries

def define (t : MethodTable) (cls name : Symbol) (m : Method) : MethodTable :=
  ⟨Entries.put (isAt cls name) (cls, name) m t.entries⟩

def size (t : MethodTable) : Nat := t.entries.length

end MethodTable

structure Machine where
  symbols : SymbolTable
  methods : MethodTable
  objectClass : Symbol
  heap : Heap
  lastMatch : Value
  /-- How many users have been enumerated. -/
  userCursor : Nat
  /-- How many groups have been enumerated. -/
  groupCursor : Nat

namespace Machine

/-- Defines a method, in place of an earlier one of that class and name. -/
def define (m : Machine) (cls name : String) (method : Method) : Machine :=
  let (c, symbols) := m.symbols.intern cls
  let (n, symbols) := symbols.intern name
  { m with symbols := symbols, methods := m.methods.define c n method }

/-- The method defined under a class and a name, which need not be symbols yet. -/
def definition? (m : Machine) (cls name : String) : Option Method :=
  match m.symbols.lookup? cls, m.symbols.lookup? name with
  | some c, some n => m.methods.get? c n
  | _, _ => none

/-- A machine without methods. -/
def bare (c : Config) : Machine :=
  let symbols := if c.preinternKnownSymbols then SymbolTable.known 0 else SymbolTable.empty 0
  let (object, symbols) := (symbols.setTracking c.trackInternerStats).intern Builtin.objectClass
  ⟨symbols, .empty, object, .empty, .nil, 0, 0⟩

/-- A machine with the built-in methods. -/
def build (c : Config) : Machine :=
  Builtin.all.foldl (fun m (cls, name, b) => m.define cls name (.builtin b)) (bare c)

/-- A machine of a valid configuration. -/
def ofConfig (c : Config) : Except ConfigError Machine := c.validate.map build

end Machine

end LateBinding
