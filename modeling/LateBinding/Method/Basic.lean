/-! # Methods

The built-in methods, by the class that they are written for, and the native methods that a host
adds. One method can be registered under several names. -/

namespace LateBinding

inductive ObjectMethod
  | inspect | toS | equal | notEqual | isNil | respondTo
  deriving DecidableEq, Repr

inductive IntegerMethod
  | toS | toI | succ | plus | minus | equal | compare
  deriving DecidableEq, Repr

inductive FloatMethod
  | toS | toI | equal
  deriving DecidableEq, Repr

inductive StringMethod
  | upcase | downcase | swapcase | capitalize | succ | length | isEmpty | ref | search
  | startsWith | endsWith | toS | toSym | equal | compare | plus
  deriving DecidableEq, Repr

inductive SymbolMethod
  | toS | name | inspect | toSym | toProc | length | compare | equal | caseless | equalCaseless
  | succ | upcase | downcase | swapcase | capitalize | startsWith | endsWith | ref | search
  deriving DecidableEq, Repr

inductive ArrayMethod
  | toAry | size | ref | first | last | dup | push | equal
  deriving DecidableEq, Repr

inductive HashMethod
  | ref | set | hasKey | size | keys | values | equal
  deriving DecidableEq, Repr

inductive ProcMethod
  | call | arity | isLambda | toProc
  deriving DecidableEq, Repr

inductive MatchMethod
  | ref | toS | pre | post | captures | offset
  deriving DecidableEq, Repr

inductive SystemMethod
  | login | userNamed | groupNamed | userWithId | groupWithId | limit
  | nextUser | rewindUsers | closeUsers | nextGroup | rewindGroups | closeGroups
  deriving DecidableEq, Repr

inductive Builtin
  | object (m : ObjectMethod)
  | integer (m : IntegerMethod)
  | float (m : FloatMethod)
  | string (m : StringMethod)
  | symbol (m : SymbolMethod)
  | array (m : ArrayMethod)
  | hash (m : HashMethod)
  | proc (m : ProcMethod)
  | matched (m : MatchMethod)
  | system (m : SystemMethod)
  deriving DecidableEq, Repr

/-- A native method is known by the name under which the host keeps it. -/
inductive Method
  | builtin (b : Builtin)
  | native (name : String)
  deriving DecidableEq, Repr

end LateBinding
