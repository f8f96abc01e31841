import LateBinding.Symbol.Basic
import LateBinding.Text.Quoted

/-! # Display of symbols

A symbol is shown as a colon and its name, which is quoted unless it could be read back bare: a
special global, an identifier with its sigils and final mark, or an operator. -/

namespace LateBinding.Symbol

/-- The operators that stand without quotes. -/
def bareOperators : List String :=
  ["%", "==", "!", "!=", "+", "-", "/", "*", "**", "<", "<=", ">", ">=", "<<", ">>",
    "[]=", "[]", "&"]

/-- A dollar sign and a digit or one of three marks. -/
def isSpecialGlobal : List Char → Bool
  | ['$', c] => c.isDigit || c == '?' || c == '!' || c == '~'
  | _ => false

def dropSigil : List Char → List Char
  | '@' :: '@' :: r => r
  | '@' :: r => r
  | '$' :: r => r
  | cs => cs

def isMark (c : Char) : Bool := c == '?' || c == '!' || c == '='

def dropMark (cs : List Char) : List Char :=
  if cs.getLast?.any isMark then cs.dropLast else cs

def isWordStart (c : Char) : Bool := c.isLower || c == '_'

def isWordPart (c : Char) : Bool := c.isLower || c.isDigit || c == '_'

def isWord : List Char → Bool
  | [] => false
  | c :: r => isWordStart c && r.all isWordPart

def isIdentifier (cs : List Char) : Bool := isWord (dropMark (dropSigil cs))

def isBareSafe (cs : List Char) : Bool :=
  isSpecialGlobal cs || isIdentifier cs || bareOperators.any (·.toList == cs)

/-- From the exclamation mark to the tilde. -/
def isGraphic (c : Char) : Bool := '!' ≤ c && c ≤ '~'

/-- A dollar sign and more. -/
def isGlobal : List Char → Bool
  | '$' :: _ :: _ => true
  | _ => false

/-- A name is quoted when it is not bare safe or not all graphic; but a global never is. -/
def nameNeedsQuotes (cs : List Char) : Bool :=
  (!isBareSafe cs || cs.any (!isGraphic ·)) && !isGlobal cs

def needsQuotes (s : Symbol) : Bool := nameNeedsQuotes s.name.toList

def inspect (s : Symbol) : String :=
  ":" ++ (if s.needsQuotes then quote s.name else s.name)

/-- The name behind a colon, never quoted. -/
def plain (s : Symbol) : String := ":" ++ s.name

end LateBinding.Symbol
