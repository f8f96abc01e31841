import LateBinding.Symbol.Basic
import LateBinding.Symbol.Statistics
import LateBinding.Text.Utf8

/-! # Symbol tables

A table gives every name one symbol, for good. It counts how often interning found a name and how
often it had to register one, while tracking is on; names known from the start are not counted. -/

namespace LateBinding

inductive SymbolError
  | invalidName (validBytes : Nat)
  | notFound (name : String)
  deriving DecidableEq, Repr

def SymbolError.message : SymbolError → String
  | invalidName n => "invalid symbol name: " ++ toString n ++
    " valid bytes before an invalid UTF-8 sequence"
  | notFound name => "symbol not interned: " ++ name

structure SymbolTable where
  /-- Sets the symbols of this table apart from those of all others. -/
  tag : Nat
  /-- Names with their symbols, the last registered first. -/
  entries : List (String × Symbol)
  tracking : Bool
  hits : Nat
  misses : Nat
  deriving DecidableEq, Repr

namespace SymbolTable

/-- The names that dispatch itself uses. -/
def knownNames : List String :=
  ["to_ary", "to_a", "to_str", "to_s", "to_int", "to_i", "to_sym", "to_proc",
   "call", "new", "arity", "lambda?", "respond_to?",
   "succ", "next", "upcase", "downcase", "swapcase", "capitalize", "ascii",
   "length", "size", "empty?", "start_with?", "end_with?", "inspect", "name",
   "casecmp", "casecmp?", "class",
   "[]", "[]=", "==", "<=>", "=~", "+", "-", "*", "/", "%", "<", ">", "<=", ">="]

def empty (tag : Nat) : SymbolTable := ⟨tag, [], true, 0, 0⟩

def lookup? (t : SymbolTable) (name : String) : Option Symbol := t.entries.lookup name

def require (t : SymbolTable) (name : String) : Except SymbolError Symbol :=
  match t.lookup? name with
  | some s => .ok s
  | none => .error (.notFound name)

def size (t : SymbolTable) : Nat := t.entries.length

def symbols (t : SymbolTable) : List Symbol := t.entries.map (·.2)

/-- The symbol that the next new name becomes. -/
def nextSymbol (t : SymbolTable) (name : String) : Symbol := ⟨⟨t.tag, t.size⟩, name⟩

/-- Registers a name that is not there yet, without counting. -/
def register (t : SymbolTable) (name : String) : SymbolTable :=
  { t with entries := (name, t.nextSymbol name) :: t.entries }

def countHit (t : SymbolTable) : SymbolTable :=
  if t.tracking then { t with hits := t.hits + 1 } else t

def countMiss (t : SymbolTable) : SymbolTable :=
  if t.tracking then { t with misses := t.misses + 1 } else t

/-- The symbol of a name, registered if need be. -/
def intern (t : SymbolTable) (name : String) : Symbol × SymbolTable :=
  match t.lookup? name with
  | some s => (s, t.countHit)
  | none => (t.nextSymbol name, (t.register name).countMiss)

/-- Interns the text that the bytes encode. -/
def internBytes (t : SymbolTable) (bytes : List UInt8) :
    Except SymbolError (Symbol × SymbolTable) :=
  match Utf8.text? bytes with
  | .ok name => .ok (t.intern name)
  | .error n => .error (.invalidName n)

/-- Registers those of the names that are missing, without counting. -/
def preintern (t : SymbolTable) (names : List String) : SymbolTable :=
  names.foldl (fun t name => if (t.lookup? name).isSome then t else t.register name) t

def known (tag : Nat) : SymbolTable := (empty tag).preintern knownNames

def setTracking (t : SymbolTable) (on : Bool) : SymbolTable := { t with tracking := on }

theorem lookup?_countHit (t : SymbolTable) (name : String) :
    t.countHit.lookup? name = t.lookup? name := by
  unfold countHit; split <;> rfl

theorem lookup?_countMiss (t : SymbolTable) (name : String) :
    t.countMiss.lookup? name = t.lookup? name := by
  unfold countMiss; split <;> rfl

/-- Interning leaves the symbol where it is found. -/
theorem lookup?_intern (t : SymbolTable) (name : String) :
    (t.intern name).2.lookup? name = some (t.intern name).1 := by
  unfold intern
  split
  · rw [lookup?_countHit]; assumption
  · rw [lookup?_countMiss]; simp [register, lookup?]

/-- Interning one name leaves the other names as they were. -/
theorem lookup?_intern_of_ne {t : SymbolTable} {name other : String} (h : other ≠ name) :
    (t.intern name).2.lookup? other = t.lookup? other := by
  unfold intern
  split
  · rw [lookup?_countHit]
  · rw [lookup?_countMiss, register, lookup?, List.lookup_cons, beq_eq_false_iff_ne.mpr h]; rfl

/-- The counters; how much room is reserved is no part of the model. -/
def stats (t : SymbolTable) : InternerStats := ⟨t.size, t.size, t.hits, t.misses⟩

end SymbolTable

end LateBinding
