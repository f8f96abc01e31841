import LateBinding.Unrolling
import LateBinding.Value.Basic

/-! # Equality of values

Content equality compares strings, arrays, hashes, regexps and matches by what they hold, floats by
their bits, and symbols, procs and objects by identity; values of different kinds are never equal.
Hash keys are found by it, after a first look at what the keys feed to a hasher. Neither ends on all
values that hold themselves, and neither gets past a hash that is held for writing. -/

namespace LateBinding

/-- One item of what a value feeds to a hasher. -/
inductive Feed
  | kind (n : Nat)
  | bool (b : Bool)
  | integer (n : Int64)
  | bits (w : UInt64)
  | text (s : String)
  | size (n : Nat)
  | symbol (id : SymbolId)
  | identity (n : Nat)
  deriving DecidableEq, Repr

namespace Heap

variable (h : Heap) (held : Option Nat)

/-- The entries of a hash, unless it is held for writing: then whoever asks for them waits for
ever. -/
def read? (ref : Nat) : Option (List (Value × Value)) :=
  if held = some ref then none else some (h.hash ref)

/-- What a value feeds to a hasher, from what its items feed. A hash feeds its size alone, so that
the order of its entries does not matter. -/
def feedStep (feed : Value → Option (List Feed)) : Value → Option (List Feed)
  | .nil => some [.kind 0]
  | .bool b => some [.kind 1, .bool b]
  | .integer n => some [.kind 2, .integer n]
  | .float d => some [.kind 3, .bits d.bits]
  | .string s => some [.kind 4, .text s.text]
  | .symbol s => some [.kind 5, .symbol s.id]
  | .array ref => do return .kind 6 :: (← (h.array ref).mapM feed).flatten
  | .hash ref => do return [.kind 7, .size (← h.read? held ref).length]
  | .regexp r => some [.kind 8, .text r.source]
  | .matched m => some [.kind 9, .text m.matched]
  | .proc p => some [.kind 10, .identity p.id]
  | .object o => some [.kind 11, .identity o.ref]

def feed? (v : Value) : Option (List Feed) := unroll (h.feedStep held) h.depth v

/-- Whether a stored key is the one that feeds so much. It is compared only if it feeds the same. -/
def isKey? (rel : Value × Value → Option Bool) (key : Value) (fed : List Feed) (k : Value) :
    Option Bool :=
  if h.feed? held k = some fed then rel (key, k) else some false

/-- The value that is stored under a key. A hash with several entries is asked by what the key
feeds; in one with a single entry there is nothing but its key to be compared. -/
def lookUp? (rel : Value × Value → Option Bool) (key : Value) (entries : List (Value × Value)) :
    Option (Option Value) :=
  if entries.length ≤ 1 then Entries.find? (fun k => rel (key, k)) entries
  else do
    let fed ← h.feed? held key
    Entries.find? (h.isKey? held rel key fed) entries

/-- Whether there is an equal value under the key of an entry. -/
def isFound? (rel : Value × Value → Option Bool) (others : List (Value × Value))
    (entry : Value × Value) : Option Bool := do
  match ← h.lookUp? held rel entry.1 others with
  | some v => rel (v, entry.2)
  | none => some false

/-- Whether two values are equal, from whether their parts are. Two hashes are equal when they have
as many entries and each key of the first has an equal value in the second. -/
def eqlStep (rel : Value × Value → Option Bool) : Value × Value → Option Bool
  | (.nil, .nil) => some true
  | (.bool a, .bool b) => some (a == b)
  | (.integer a, .integer b) => some (a == b)
  | (.float a, .float b) => some (a.bits == b.bits)
  | (.string a, .string b) => some (a.text == b.text)
  | (.symbol a, .symbol b) => some (a.same b)
  | (.array a, .array b) =>
    if a = b then some true
    else if (h.array a).length = (h.array b).length then all? rel ((h.array a).zip (h.array b))
    else some false
  | (.hash a, .hash b) =>
    if a = b then some true
    else do
      let entries ← h.read? held a
      let others ← h.read? held b
      if entries.length = others.length then all? (h.isFound? held rel others) entries
        else some false
  | (.regexp a, .regexp b) => some (a.source == b.source)
  | (.matched a, .matched b) => some (a.eql b)
  | (.proc a, .proc b) => some (a.id == b.id)
  | (.object a, .object b) => some (a.ref == b.ref)
  | _ => some false

/-- Content equality. No more pairs of containers can be compared within each other than the heap
has. -/
def eql? (a b : Value) : Option Bool := unroll (h.eqlStep held) (h.depth * h.depth) (a, b)

/-- Whether a comparison ends and finds two values equal. -/
def eql (a b : Value) : Bool := h.eql? none a b == some true

/-- The value stored under an equal key. -/
def hashGet? (ref : Nat) (key : Value) : Option (Option Value) :=
  h.lookUp? none (fun p => h.eql? none p.1 p.2) key (h.hash ref)

/-- The entries with one more, or with another value under an equal key. -/
def insert? (key v : Value) (entries : List (Value × Value)) : Option (List (Value × Value)) := do
  let fed ← h.feed? held key
  Entries.insert? (h.isKey? held (fun p => h.eql? held p.1 p.2) key fed) key v entries

/-- The entries that a hash has after storing. It is held meanwhile: a key that leads back to it is
waited for in vain. -/
def stored? (ref : Nat) (key v : Value) : Option (List (Value × Value)) :=
  h.insert? (some ref) key v (h.hash ref)

/-- Of several equal keys the first gives the place and the last the value. -/
def hashOf? (pairs : List (Value × Value)) : Option (Nat × Heap) := do
  return h.newHash (← pairs.foldlM (fun entries (k, v) => h.insert? none k v entries) [])

/-- Identity: the same string, container, regexp or match, or else equal scalars. -/
def same : Value → Value → Bool
  | .string a, .string b => a.id == b.id
  | .array a, .array b => a == b
  | .hash a, .hash b => a == b
  | .regexp a, .regexp b => a.id == b.id
  | .matched a, .matched b => a.id == b.id
  | a, b => h.eql a b

end Heap

end LateBinding
