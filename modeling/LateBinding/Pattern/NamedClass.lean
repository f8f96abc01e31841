import LateBinding.Unicode.PropertyName
import LateBinding.Unicode.Word

/-! # Named classes

The sets that a pattern can name: by a letter, by an ASCII class, or by a property. -/

namespace LateBinding.Charset

def word : Charset := runs Unicode.wordRuns

def digit : Charset := runs Unicode.digitRuns

def space : Charset := runs Unicode.spaceRuns

/-- All but the line feed. -/
def notNewline : Charset := compl (single '\n')

/-- The classes of one letter; the capital is the complement. -/
def ofLetter? : Char → Option Charset
  | 'd' => some digit
  | 'D' => some (compl digit)
  | 's' => some space
  | 'S' => some (compl space)
  | 'w' => some word
  | 'W' => some (compl word)
  | _ => Option.none

/-- The ASCII classes that are named between `[:` and `:]`. -/
def ofAsciiName? (name : String) : Option Charset :=
  let lower := span 'a' 'z'
  let upper := span 'A' 'Z'
  let digits := span '0' '9'
  match name with
  | "alnum" => some (unionAll [digits, upper, lower])
  | "alpha" => some (unionAll [upper, lower])
  | "ascii" => some (range 0 0x7f)
  | "blank" => some (unionAll [single '\t', single ' '])
  | "cntrl" => some (unionAll [range 0 0x1f, range 0x7f 0x7f])
  | "digit" => some digits
  | "graph" => some (span '!' '~')
  | "lower" => some lower
  | "print" => some (span ' ' '~')
  | "punct" => some (unionAll [span '!' '/', span ':' '@', range 0x5b 0x60, range 0x7b 0x7e])
  | "space" => some (unionAll [range 9 13, single ' '])
  | "upper" => some upper
  | "word" => some (unionAll [digits, upper, single '_', lower])
  | "xdigit" => some (unionAll [digits, span 'A' 'F', span 'a' 'f'])
  | _ => Option.none

/-- The texts before and after the first occurrence of `mark`. -/
def splitAt? (mark : List Char) : List Char → Option (List Char × List Char)
  | [] => Option.none
  | c :: r =>
    if mark.isPrefixOf (c :: r) then some ([], (c :: r).drop mark.length)
    else (splitAt? mark r).map fun (front, back) => (c :: front, back)

/-- A property as it is written between braces: a name, or a name and a value with a sign between
them. The flag says whether the complement is meant. -/
def ofProperty? (text : List Char) : Option (Bool × Charset) :=
  match splitAt? ['!', '='] text with
  | some (name, value) => (Unicode.propertyValue? name value).map (true, ·)
  | Option.none =>
    match splitAt? [':'] text <|> splitAt? ['='] text with
    | some (name, value) => (Unicode.propertyValue? name value).map (false, ·)
    | Option.none => (Unicode.property? text).map (false, ·)

end LateBinding.Charset
