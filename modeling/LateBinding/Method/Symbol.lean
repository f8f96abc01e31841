import LateBinding.Method.String

/-! # Methods of symbols

A symbol is displayed, ordered and compared by its name. Whatever derives another name is left to
the methods of strings, and the answer is interned. -/

namespace LateBinding.SymbolMethod

open Eval

/-- The methods that check their arguments on their own, after the receiver, have no arity here. -/
def arity? : SymbolMethod → Option Arity
  | succ | upcase | downcase | swapcase | capitalize | startsWith | endsWith => none
  | toS | name | inspect | toSym | toProc | length => some (.exactly 0)
  | compare | equal | caseless | equalCaseless | search => some (.exactly 1)
  | ref => some (.between 1 2)

def receiver (v : Value) : Eval Symbol :=
  match v with
  | .symbol s => pure s
  | other => wrongArgument other "Symbol"

/-- A new string with the name. -/
def freshName (s : Symbol) : Eval Value := newString s.name

/-- The string of the symbol, the same one each time. -/
def nameString (s : Symbol) : Eval Str := onHeap (·.nameString s)

def comparison (s : Symbol) (order : Symbol → Symbol → Ordering) : Value → Value
  | .symbol t => ordering (order s t)
  | _ => .nil

def sameButCase (s : Symbol) : Value → Value
  | .symbol t => .bool (s.eqCaseless t)
  | _ => .nil

def isSame (s : Symbol) : Value → Value
  | .symbol t => .bool (t.same s)
  | _ => .bool false

def proc (s : Symbol) : Eval Value := newProc (.send s) true

/-- Sends a message to a new string with the name, and interns the string that it answers. -/
def transform (send : Sender) (s : Symbol) (message : String) (args : Args) : Eval Symbol := do
  match ← send.byName (← freshName s) message args with
  | .string t => intern t.text
  | other => fail (.notAString message other.className)

def startsWithAny (send : Sender) (s : Symbol) (patterns : List Value) : Eval Bool := do
  StringMethod.anyAtFront send (← nameString s).text patterns

def endsWithAny (send : Sender) (s : Symbol) (patterns : List Value) : Eval Bool := do
  StringMethod.anyAtEnd send (← nameString s).text patterns

def refer (send : Sender) (s : Symbol) (index : Value) (length : Option Value) : Eval Value :=
  StringMethod.refer send s.name index length

def matchOffset (s : Symbol) (pattern : Value) : Eval Value := do
  match pattern with
  | .regexp _ => StringMethod.matchOffset (← nameString s).text pattern
  | other => wrongArgument other "Regexp"

def run (send : Sender) (m : SymbolMethod) (self : Value) (args : Args) : Eval Value := do
  if let some a := m.arity? then check args a
  let s ← receiver self
  match m with
  | toS => freshName s
  | name => return .string (← nameString s)
  | inspect => newString s.inspect
  | toSym => return self
  | toProc => proc s
  | length => return count s.length
  | compare => return comparison s Symbol.compareNames (← arg args 0)
  | equal => return isSame s (← arg args 0)
  | caseless => return comparison s Symbol.compareCaseless (← arg args 0)
  | equalCaseless => return sameButCase s (← arg args 0)
  | startsWith => return .bool (← startsWithAny send s args.items)
  | endsWith => return .bool (← endsWithAny send s args.items)
  | ref => refer send s (← arg args 0) (args.get? 1)
  | search => matchOffset s (← arg args 0)
  | succ => return .symbol (← transform send s "succ" args)
  | upcase => return .symbol (← transform send s "upcase" args)
  | downcase => return .symbol (← transform send s "downcase" args)
  | swapcase => return .symbol (← transform send s "swapcase" args)
  | capitalize => return .symbol (← transform send s "capitalize" args)

end LateBinding.SymbolMethod
