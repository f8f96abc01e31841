import LateBinding.Config.Basic
import LateBinding.Number.Numeral
import LateBinding.Number.Word

/-! # Configuration documents

The written form of a configuration: one line for each setting, with a name, an equals sign and an
integer or a boolean, between blank lines and comments. Anything else that the format knows has no
place in a configuration and is refused like a mistake. -/

namespace LateBinding.Config.Document

inductive Scalar
  | integer (n : Int)
  | boolean (b : Bool)
  deriving DecidableEq, Repr

def isBlank (c : Char) : Bool := c == ' ' || c == '\t'

def skipBlank (cs : List Char) : List Char := cs.dropWhile isBlank

/-- The characters that may stand in a comment or in a quoted name. -/
def isText (c : Char) : Bool := c == '\t' || (0x20 ≤ c.toNat && c.toNat != 0x7f)

/-- Whether nothing but blanks and a comment is left of a line. -/
def atEnd (cs : List Char) : Bool :=
  match skipBlank cs with
  | [] => true
  | '#' :: r => r.all isText
  | _ => false

/-- Digits with single underscores between them. -/
def digits? (base : Nat) (value : Nat) : List Char → Option Nat
  | [] => none
  | '_' :: _ => none
  | [c] => (Numeral.digit? base c).map (base * value + ·)
  | c :: '_' :: r => (Numeral.digit? base c).bind fun d => digits? base (base * value + d) r
  | c :: r => (Numeral.digit? base c).bind fun d => digits? base (base * value + d) r

/-- A decimal without superfluous zeros. -/
def decimal? : List Char → Option Nat
  | ['0'] => some 0
  | '0' :: _ => none
  | cs => digits? 10 0 cs

def integer? : List Char → Option Int
  | '+' :: r => (decimal? r).map Int.ofNat
  | '-' :: r => (decimal? r).map fun n => -(n : Int)
  | '0' :: 'x' :: r => (digits? 16 0 r).map Int.ofNat
  | '0' :: 'o' :: r => (digits? 8 0 r).map Int.ofNat
  | '0' :: 'b' :: r => (digits? 2 0 r).map Int.ofNat
  | cs => (decimal? cs).map Int.ofNat

def scalar? (cs : List Char) : Option Scalar :=
  if cs = "true".toList then some (.boolean true)
  else if cs = "false".toList then some (.boolean false)
  else ((integer? cs).filter (IsWord ·)).map .integer

def isBareKey (c : Char) : Bool := c.isAlphanum || c == '_' || c == '-'

/-- The character whose code point is written in hexadecimal digits. -/
def codePoint? (digits : List Char) : Option Char :=
  (Numeral.number? 16 digits).bind Numeral.scalar?

/-- The rest of a name between double quotes, where a backslash starts an escape. -/
def quotedKey? : List Char → Option (List Char × List Char)
  | [] => none
  | '"' :: r => some ([], r)
  | '\\' :: 'u' :: a :: b :: c :: d :: r =>
    (codePoint? [a, b, c, d]).bind fun ch => (quotedKey? r).map fun (k, rest) => (ch :: k, rest)
  | '\\' :: 'U' :: a :: b :: c :: d :: e :: f :: g :: h :: r =>
    (codePoint? [a, b, c, d, e, f, g, h]).bind fun ch =>
      (quotedKey? r).map fun (k, rest) => (ch :: k, rest)
  | '\\' :: e :: r =>
    match [('b', '\x08'), ('t', '\t'), ('n', '\n'), ('f', '\x0c'), ('r', '\r'), ('"', '"'),
      ('\\', '\\')].lookup e with
    | some ch => (quotedKey? r).map fun (k, rest) => (ch :: k, rest)
    | none => none
  | c :: r => if isText c then (quotedKey? r).map fun (k, rest) => (c :: k, rest) else none

/-- A name, bare or quoted, and what follows it. -/
def key? : List Char → Option (List Char × List Char)
  | '"' :: r => quotedKey? r
  | '\'' :: r =>
    let name := r.takeWhile (· != '\'')
    match r.drop name.length with
    | _ :: rest => if name.all isText then some (name, rest) else none
    | [] => none
  | cs =>
    let name := cs.takeWhile isBareKey
    if name.isEmpty then none else some (name, cs.drop name.length)

def endsValue (c : Char) : Bool := isBlank c || c == '#'

/-- The setting on a line: a name and a value. -/
def setting? (cs : List Char) : Option (String × Scalar) :=
  match key? cs with
  | none => none
  | some (name, r) =>
    match skipBlank r with
    | '=' :: r =>
      let r := skipBlank r
      let value := r.takeWhile (! endsValue ·)
      if atEnd (r.drop value.length) then (scalar? value).map fun v =>
        (String.ofList name, v) else none
    | _ => none

/-- A line that sets nothing, or the setting on it. -/
def line? (cs : List Char) : Option (Option (String × Scalar)) :=
  if atEnd cs then some none else (setting? (skipBlank cs)).map some

/-- The lines of a text. A carriage return before the line feed belongs to the end of the line. -/
def lines (current : List Char) : List Char → List (List Char)
  | [] => [current.reverse]
  | '\n' :: r => current.reverse :: lines [] r
  | '\r' :: '\n' :: r => current.reverse :: lines [] r
  | c :: r => lines (c :: current) r

/-- The settings of a text, in order; a byte order mark in front is skipped. -/
def settings? (text : String) : Option (List (String × Scalar)) :=
  let cs := match text.toList with
    | c :: r => if c.toNat = 0xfeff then r else c :: r
    | [] => []
  ((lines [] cs).mapM line?).map fun found => found.filterMap id

/-- A configuration with some of its settings read. -/
structure Draft where
  symbolCapacity : Option Nat
  preinternKnownSymbols : Option Bool
  trackInternerStats : Option Bool

/-- Adds a setting; unknown names, repeated ones and values of the wrong kind are refused. -/
def Draft.add? (p : Draft) (setting : String × Scalar) : Option Draft :=
  match setting with
  | ("symbol_capacity", .integer n) =>
    if p.symbolCapacity.isNone ∧ 0 ≤ n then some { p with symbolCapacity := some n.toNat } else none
  | ("preintern_known_symbols", .boolean b) =>
    if p.preinternKnownSymbols.isNone then some { p with preinternKnownSymbols := some b } else none
  | ("track_interner_stats", .boolean b) =>
    if p.trackInternerStats.isNone then some { p with trackInternerStats := some b } else none
  | _ => none

/-- What a document does not set keeps its standard value. -/
def Draft.complete (p : Draft) : Config :=
  ⟨p.symbolCapacity.getD standard.symbolCapacity,
    p.preinternKnownSymbols.getD standard.preinternKnownSymbols,
    p.trackInternerStats.getD standard.trackInternerStats⟩

def read? (text : String) : Option Config :=
  ((settings? text).bind (List.foldlM Draft.add? ⟨none, none, none⟩)).map Draft.complete

def boolText (b : Bool) : String := if b then "true" else "false"

/-- The written form, unless the capacity is beyond the integers of the format. -/
def write? (c : Config) : Option String :=
  if c.symbolCapacity < wordBound then
    some ("symbol_capacity = " ++ toString c.symbolCapacity ++ "\n"
      ++ "preintern_known_symbols = " ++ boolText c.preinternKnownSymbols ++ "\n"
      ++ "track_interner_stats = " ++ boolText c.trackInternerStats ++ "\n")
  else none

end LateBinding.Config.Document

namespace LateBinding.Config

/-- Reads and validates a configuration. -/
def ofText (text : String) : Except ConfigError Config :=
  match Document.read? text with
  | some c => c.validate
  | none => .error .parse

end LateBinding.Config
