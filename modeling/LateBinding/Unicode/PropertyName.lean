import LateBinding.Unicode.Age
import LateBinding.Unicode.ScriptExtension
import LateBinding.Unicode.Segmentation

/-! # Property names

The sets that a name, or a name with a value, stands for. Names are compared without case, spaces,
hyphens, underscores and a leading `is`. -/

namespace LateBinding.Unicode

def withoutIs : List Char → List Char
  | c :: d :: r => if c.toLower = 'i' ∧ d.toLower = 's' then r else c :: d :: r
  | cs => cs

def plainName (name : List Char) : String :=
  String.ofList (((withoutIs name).filter fun c =>
    c != ' ' && c != '-' && c != '_' && c.toNat < 0x80).map Char.toLower)

/-- The set under a plain name. -/
def named? (sets : List (List String × Charset)) (plain : String) : Option Charset :=
  (sets.find? (·.1.contains plain)).map (·.2)

def scripts : List (List String × Charset) :=
  Script.all.map fun (names, own) => (names, .runs own)

/-- A binary property, a category or a script. -/
def property? (name : List Char) : Option Charset :=
  let plain := plainName name
  named? Property.derived plain <|> named? Property.listed plain <|> named? Category.all plain <|>
    named? scripts plain

/-- The sets that a property with values has for them. -/
def values : String → List (List String × Charset)
  | "generalcategory" | "gc" => Category.all
  | "script" | "sc" => scripts
  | "scriptextensions" | "scx" => scriptExtensions
  | "age" => Age.upTo
  | "graphemeclusterbreak" | "gcb" => Segmentation.graphemeClusterBreak
  | "wordbreak" | "wb" => Segmentation.wordBreak
  | "sentencebreak" | "sb" => Segmentation.sentenceBreak
  | _ => []

def propertyValue? (name value : List Char) : Option Charset :=
  named? (values (plainName name)) (plainName value)

end LateBinding.Unicode
