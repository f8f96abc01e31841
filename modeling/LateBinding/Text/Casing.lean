import LateBinding.Unicode.CaseMapping
import LateBinding.Unicode.CaseProperty

/-! # Case of a text

Upper, lower, swapped and capitalized forms, over the ASCII letters alone or over all of Unicode. -/

namespace LateBinding

inductive Casing | ascii | full
  deriving DecidableEq, Repr

namespace Casing

def upper : Casing → Char → List Char
  | ascii, c => [c.toUpper]
  | full, c => Unicode.toUpper c

def lower : Casing → Char → List Char
  | ascii, c => [c.toLower]
  | full, c => Unicode.toLower c

/-- Whether the nearest character that is not passed over is cased. -/
def nearCased (cs : List Char) : Bool :=
  (cs.dropWhile Unicode.isCaseIgnorable).head?.any Unicode.isCased

/-- A capital sigma at the end of a word has a form of its own. `before` is read backwards. -/
def lowerSigma (before after : List Char) : Char :=
  if nearCased before && !nearCased after then 'ς' else 'σ'

def lowerFrom (before : List Char) : List Char → List Char
  | [] => []
  | c :: r => (if c = 'Σ' then [lowerSigma before r] else Unicode.toLower c) ++
    lowerFrom (c :: before) r

def upcaseChars (casing : Casing) (cs : List Char) : List Char :=
  cs.flatMap casing.upper

def downcaseChars : Casing → List Char → List Char
  | ascii, cs => cs.flatMap (lower ascii)
  | full, cs => lowerFrom [] cs

def swapChar : Casing → Char → List Char
  | ascii, c => if c.isLower then [c.toUpper] else [c.toLower]
  | full, c =>
    if Unicode.isLowercase c then Unicode.toUpper c
    else if Unicode.isUppercase c then Unicode.toLower c
    else [c]

def swapcaseChars (casing : Casing) (cs : List Char) : List Char :=
  cs.flatMap casing.swapChar

def capitalizeChars (casing : Casing) : List Char → List Char
  | [] => []
  | c :: r => casing.upper c ++ casing.downcaseChars r

def upcase (casing : Casing) (text : String) : String :=
  String.ofList (casing.upcaseChars text.toList)

def downcase (casing : Casing) (text : String) : String :=
  String.ofList (casing.downcaseChars text.toList)

def swapcase (casing : Casing) (text : String) : String :=
  String.ofList (casing.swapcaseChars text.toList)

def capitalize (casing : Casing) (text : String) : String :=
  String.ofList (casing.capitalizeChars text.toList)

end Casing

end LateBinding
