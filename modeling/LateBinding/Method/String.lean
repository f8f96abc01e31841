import LateBinding.Conversion
import LateBinding.Text.Casing
import LateBinding.Text.Successor
import LateBinding.Value.Display

/-! # Methods of strings

A string never changes: its methods answer new strings. The ones that take a regexp leave their
match, or `nil`, in the register of the last match. -/

namespace LateBinding.StringMethod

open Eval

/-- The methods that check their arguments on their own, after the receiver, have no arity here. -/
def arity? : StringMethod → Option Arity
  | upcase | downcase | swapcase | capitalize | startsWith | endsWith => none
  | succ | length | isEmpty | toS | toSym => some (.exactly 0)
  | ref => some (.between 1 2)
  | search | equal | compare | plus => some (.exactly 1)

def receiver (v : Value) : Eval Str :=
  match v with
  | .string s => pure s
  | other => wrongArgument other "String"

/-- The first match in a text, left in the register. -/
def lookFor (r : Regexp) (text : String) : Eval (Option Match) := do
  match Match.spans? r text 0 with
  | some groups =>
    let m : Match := ⟨← onHeap (·.fresh), r, text, groups⟩
    setLastMatch (.matched m)
    return some m
  | none =>
    setLastMatch .nil
    return none

/-- The group of that name, which the pattern must have. -/
def namedGroup (m : Match) (name : String) : Eval (Option String) :=
  if (m.groupNamed? name).isSome then pure (m.named? name) else fail (.undefinedGroup name)

/-- The place of a group that is counted from the end when negative. -/
def groupAt (m : Match) (i : Int64) : Eval (Option String) := do
  let n ← if i.toInt < 0 then sum i.toInt m.size else pure i.toInt
  return if 0 ≤ n then m.get? n.toNat else none

/-- The group that a selector picks from a match: all of it, by name, or by number. -/
def selectGroup (send : Sender) (m : Match) : Option Value → Eval (Option String)
  | none => pure (m.get? 0)
  | some (.string s) => namedGroup m s.text
  | some (.symbol s) => namedGroup m s.name
  | some other => do groupAt m (← toInt send other)

/-- An index counted from the end when negative. -/
def fromEnd (i : Int64) (count : Nat) : Eval Int :=
  if i.toInt < 0 then sum i.toInt count else pure i.toInt

/-- A new string of up to `n` characters from the one at `start` on. -/
def cut (cs : List Char) (start n : Nat) : Eval Value := do
  newString (String.ofList (← orPanic (Slice.cut? start n cs)))

/-- One character, or as many as there are of a number of them. -/
def part (send : Sender) (text : String) (index : Value) (length : Option Value) : Eval Value := do
  let cs := text.toList
  let start ← fromEnd (← toInt send index) cs.length
  match length with
  | none =>
    if start < 0 ∨ cs.length ≤ start then return .nil
    else cut cs start.toNat 1
  | some length =>
    let n := (← toInt send length).toInt
    if start < 0 ∨ cs.length < start ∨ n < 0 then return .nil
    else
      let room ← sum cs.length (-start)
      cut cs start.toNat (min n room).toNat

/-- The part of a text that an index picks: a group of a match, an occurrence, or characters by
number. -/
def refer (send : Sender) (text : String) (index : Value) (length : Option Value) : Eval Value := do
  match index with
  | .regexp r =>
    match ← lookFor r text with
    | none => return .nil
    | some m => optionalString (← selectGroup send m length)
  | .string needle =>
    if length.isSome then fail (.noConversion "String" "Integer")
    else if Slice.occursIn needle.chars text.toList then newString needle.text
    else return .nil
  | _ => part send text index length

/-- The number of characters before the first match. -/
def matchOffset (text : String) (pattern : Value) : Eval Value := do
  match pattern with
  | .regexp r =>
    match ← lookFor r text with
    | none => return .nil
    | some m =>
      match ← orPanic (m.begin? 0) with
      | some n => return count n
      | none => return .nil
  | other => wrongArgument other "Regexp"

/-- The first match in a text, if it stands at the front. Without one the register is cleared. -/
def lookAtFront (r : Regexp) (text : String) : Eval Bool := do
  match Match.spans? r text 0 with
  | some groups =>
    let m : Match := ⟨← onHeap (·.fresh), r, text, groups⟩
    if (← orPanic (m.begin? 0)) = some 0 then
      setLastMatch (.matched m)
      return true
    else
      setLastMatch .nil
      return false
  | none =>
    setLastMatch .nil
    return false

/-- Whether some pattern stands at the front; the first that does, or that fails, ends the
search. -/
def anyAtFront (send : Sender) (text : String) : List Value → Eval Bool
  | [] => return false
  | .regexp r :: rest => do
    if ← lookAtFront r text then return true else anyAtFront send text rest
  | v :: rest => do
    let start ← toStr send v
    if start.chars.isPrefixOf text.toList then return true else anyAtFront send text rest

/-- Whether some string stands at the end. -/
def anyAtEnd (send : Sender) (text : String) : List Value → Eval Bool
  | [] => return false
  | v :: rest => do
    let tail ← toStr send v
    if tail.chars.isSuffixOf text.toList then return true else anyAtEnd send text rest

/-- The options that are accepted and change nothing. -/
def idleOptions : List String := ["turkic", "lithuanian", "fold"]

/-- The casing that the options ask for. -/
def casingOf (casing : Casing) : List Value → Eval Casing
  | [] => return casing
  | .symbol s :: rest =>
    if s.name = "ascii" then casingOf .ascii rest
    else if s.name ∈ idleOptions then casingOf casing rest
    else fail (.invalidOption s.inspect)
  | v :: _ => do fail (.invalidOption (← orEndless ((← heap).inspect? v)))

def casing (args : Args) : Eval Casing := do
  check args (.between 0 2)
  casingOf .full args.items

def run (send : Sender) (m : StringMethod) (self : Value) (args : Args) : Eval Value := do
  if let some a := m.arity? then check args a
  let s ← receiver self
  match m with
  | upcase => newString ((← casing args).upcase s.text)
  | downcase => newString ((← casing args).downcase s.text)
  | swapcase => newString ((← casing args).swapcase s.text)
  | capitalize => newString ((← casing args).capitalize s.text)
  | succ => newString (LateBinding.succ s.text)
  | length => return count s.chars.length
  | isEmpty => return .bool (s.text == "")
  | ref => refer send s.text (← arg args 0) (args.get? 1)
  | search => matchOffset s.text (← arg args 0)
  | startsWith => return .bool (← anyAtFront send s.text args.items)
  | endsWith => return .bool (← anyAtEnd send s.text args.items)
  | toS => return self
  | toSym => return .symbol (← intern s.text)
  | equal =>
    match ← arg args 0 with
    | .string t => return .bool (t.text == s.text)
    | _ => return .bool false
  | compare =>
    match ← arg args 0 with
    | .string t => return ordering (TextOrder.compare s.text t.text)
    | _ => return .nil
  | plus =>
    let t ← toStr send (← arg args 0)
    newString (s.text ++ t.text)

end LateBinding.StringMethod
