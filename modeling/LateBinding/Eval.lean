import LateBinding.Machine

/-! # Computations on a machine

A computation changes the machine and answers a value or ends in a fault; what it changed before a
fault stays changed. These are the steps that all methods are made of. -/

namespace LateBinding

abbrev Eval := EStateM Fault Machine

namespace Eval

def fail {α : Type} (e : RunError) : Eval α := throw (.error e)

/-- The answer of a step that its caller has made sure of. -/
def orPanic {α : Type} : Option α → Eval α
  | some a => pure a
  | none => throw .panic

/-- The answer of a step that may have none, since it never ends. -/
def orEndless {α : Type} : Option α → Eval α
  | some a => pure a
  | none => throw .endless

def ofExcept {α : Type} : Except RunError α → Eval α
  | .ok a => pure a
  | .error e => fail e

def heap : Eval Heap := return (← get).heap

/-- Runs an operation on the heap. -/
def onHeap {α : Type} (f : Heap → α × Heap) : Eval α :=
  modifyGet fun m => let (a, h) := f m.heap; (a, { m with heap := h })

def setHeap (f : Heap → Heap) : Eval Unit := modify fun m => { m with heap := f m.heap }

def intern (name : String) : Eval Symbol :=
  modifyGet fun m => let (s, t) := m.symbols.intern name; (s, { m with symbols := t })

def setLastMatch (v : Value) : Eval Unit := modify fun m => { m with lastMatch := v }

def newString (text : String) : Eval Value := return .string (← onHeap (·.newString text))

def newArray (items : List Value) : Eval Value := return .array (← onHeap (·.newArray items))

/-- A new string, or `nil` in place of no text. -/
def optionalString : Option String → Eval Value
  | some text => newString text
  | none => pure .nil

def newProc (body : ProcBody) (isLambda : Bool) : Eval Value :=
  return .proc ⟨← onHeap (·.fresh), body, isLambda⟩

def check (args : Args) (expected : Arity) : Eval Unit := ofExcept (args.check expected)

/-- The argument at `i`, which must be there. -/
def arg (args : Args) (i : Nat) : Eval Value := orPanic (args.get? i)

/-- The arguments but the first, which must be there. -/
def shift (args : Args) : Eval Args := orPanic args.shift?

/-- The sum of two 64-bit integers, which must be one. -/
def sum (a b : Int) : Eval Int :=
  if IsWord (a + b) then pure (a + b) else throw .panic

def wrongArgument {α : Type} (v : Value) (expected : String) : Eval α :=
  fail (.wrongArgument v.className expected)

/-- A 64-bit integer from one that has to fit; a count always does. -/
def integer (n : Int) : Value := .integer (Int64.ofInt n)

def count (n : Nat) : Value := integer n

/-- The answer of a comparison. -/
def ordering : Ordering → Value
  | .lt => integer (-1)
  | .eq => integer 0
  | .gt => integer 1

end Eval

end LateBinding
