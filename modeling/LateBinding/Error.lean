/-! # Failures

What a send can answer instead of a value. Each failure is a cause; its kind, the class it is
reported under and its message are read off the cause. -/

namespace LateBinding

/-- A number of arguments that a call accepts. -/
inductive Arity
  | exactly (n : Nat)
  | between (low high : Nat)
  | atLeast (n : Nat)
  deriving DecidableEq, Repr

namespace Arity

def accepts : Arity → Nat → Bool
  | exactly n, given => given == n
  | between low high, given => low ≤ given && given ≤ high
  | atLeast n, given => n ≤ given

def text : Arity → String
  | exactly n => toString n
  | between low high => toString low ++ ".." ++ toString high
  | atLeast n => toString n ++ "+"

end Arity

inductive ErrorKind
  | arity
  | typeMismatch
  | lookup
  | noMethod
  | argument
  | systemCall
  deriving DecidableEq, Repr

/-- The class that a kind of failure is reported under. -/
def ErrorKind.className : ErrorKind → String
  | arity | lookup | argument => "ArgumentError"
  | typeMismatch => "TypeError"
  | noMethod => "NoMethodError"
  | systemCall => "SystemCallError"

inductive RunError
  | arity (given : Nat) (expected : Arity)
  | noMethod (name cls : String)
  /-- A value of one kind where one of another was needed, and no conversion. -/
  | noConversion (source target : String)
  | nilToInteger
  /-- A conversion method answered a value of the wrong class. -/
  | badConversion (cls target method answer : String)
  | wrongArgument (cls expected : String)
  | notCoercible (what target : String)
  /-- A method name that is neither a symbol nor a string, as displayed. -/
  | notAName (shown : String)
  /-- A string method answered no string when a symbol needed its name. -/
  | notAString (method cls : String)
  | integerOverflow
  | outOfInteger (shown : String)
  | invalidOption (shown : String)
  | undefinedGroup (name : String)
  | noSuchMatch (index : Int)
  | idOutOfRange (id : Int)
  | limitOutOfRange (name : Int)
  | nulInName
  | noUserNamed (name : String)
  | noGroupNamed (name : String)
  | noUserWithId (id : Nat)
  | noGroupWithId (id : Nat)
  | systemCall (code : Int)
  /-- A failure that native code reports in its own words. -/
  | raised (kind : ErrorKind) (message : String)
  deriving DecidableEq, Repr

/-- The texts of the error codes of system calls. -/
def errnoText : Int → String
  | 1 => "Operation not permitted"
  | 2 => "No such file or directory"
  | 3 => "No such process"
  | 4 => "Interrupted system call"
  | 5 => "Input/output error"
  | 9 => "Bad file descriptor"
  | 11 => "Resource temporarily unavailable"
  | 12 => "Cannot allocate memory"
  | 13 => "Permission denied"
  | 22 => "Invalid argument"
  | 23 => "Too many open files in system"
  | 24 => "Too many open files"
  | 34 => "Numerical result out of range"
  | n => "Unknown error " ++ toString n

namespace RunError

def kind : RunError → ErrorKind
  | arity .. => .arity
  | noMethod .. => .noMethod
  | noConversion .. | nilToInteger | badConversion .. | wrongArgument .. | notCoercible ..
  | notAName .. | notAString .. => .typeMismatch
  | integerOverflow | outOfInteger .. | invalidOption .. | undefinedGroup .. | noSuchMatch ..
  | idOutOfRange .. | limitOutOfRange .. | nulInName => .argument
  | noUserNamed .. | noGroupNamed .. => .lookup
  | noUserWithId .. | noGroupWithId .. | systemCall .. => .systemCall
  | raised k _ => k

def className (e : RunError) : String := e.kind.className

def message : RunError → String
  | arity given expected =>
    "wrong number of arguments (given " ++ toString given ++ ", expected " ++ expected.text ++ ")"
  | noMethod name cls => "undefined method '" ++ name ++ "' for an instance of " ++ cls
  | noConversion source target => "no implicit conversion of " ++ source ++ " into " ++ target
  | nilToInteger => "no implicit conversion from nil to integer"
  | badConversion cls target method answer =>
    "can't convert " ++ cls ++ " to " ++ target ++ " (" ++ cls ++ "#" ++ method ++ " gives " ++
      answer ++ ")"
  | wrongArgument cls expected => "wrong argument type " ++ cls ++ " (expected " ++ expected ++ ")"
  | notCoercible what target => what ++ " can't be coerced into " ++ target
  | notAName shown => shown ++ " is not a symbol nor a string"
  | notAString method cls => "String#" ++ method ++ " returned " ++ cls ++ " instead of a String"
  | integerOverflow => "integer overflow"
  | outOfInteger shown => shown ++ " out of range of integer"
  | invalidOption shown => "invalid option: " ++ shown
  | undefinedGroup name => "undefined group name reference: " ++ name
  | noSuchMatch index => "index " ++ toString index ++ " out of matches"
  | idOutOfRange id => "id " ++ toString id ++ " out of range"
  | limitOutOfRange name => "sysconf name " ++ toString name ++ " out of range"
  | nulInName => "string contains null byte"
  | noUserNamed name => "can't find user for " ++ name
  | noGroupNamed name => "can't find group for " ++ name
  | noUserWithId id => "can't find user for " ++ toString id
  | noGroupWithId id => "can't find group for " ++ toString id
  | systemCall code => errnoText code ++ " (os error " ++ toString code ++ ")"
  | raised _ message => message

end RunError

/-- How a computation comes to no value: it fails, so that the caller sees it, it breaks a rule that
its caller had to keep, it uses up the stack, or it never ends. -/
inductive Fault
  | error (e : RunError)
  | panic
  | overflow
  /-- It goes round in a value that holds itself, or waits for a hash that it writes in. -/
  | endless
  deriving DecidableEq, Repr

end LateBinding
