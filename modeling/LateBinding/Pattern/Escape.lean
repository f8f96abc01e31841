import LateBinding.Number.Numeral
import LateBinding.Pattern.Syntax

/-! # Escapes

What the characters after a backslash stand for: a character, a class or an assertion. -/

namespace LateBinding.Pattern

structure Flags where
  caseless : Bool
  multiLine : Bool
  dotAll : Bool
  swapGreed : Bool
  extended : Bool
  deriving DecidableEq, Repr

namespace Reader

def plainFlags : Flags := ⟨false, false, false, false, false⟩

/-- Drops white space and comments. -/
def skipBlank : List Char → List Char
  | [] => []
  | c :: r =>
    if Unicode.isSpace c then skipBlank r
    else if c = '#' then skipComment r
    else c :: r
where
  skipComment : List Char → List Char
    | [] => []
    | c :: r => if c = '\n' then skipBlank r else skipComment r

/-- In extended patterns blanks and comments between the parts mean nothing. -/
def skip (flags : Flags) (cs : List Char) : List Char :=
  if flags.extended then skipBlank cs else cs

/-- What counts of the text up to a closing brace, and the text after it. `comment` says that the
text begins inside of a comment. -/
def braced? (flags : Flags) (comment : Bool) : List Char → Option (List Char × List Char)
  | [] => none
  | c :: r =>
    if comment then braced? flags (c != '\n') r
    else if flags.extended && Unicode.isSpace c then braced? flags false r
    else if flags.extended && c = '#' then braced? flags true r
    else if c = '\x7d' then some ([], r)
    else (braced? flags false r).map fun (inside, rest) => (c :: inside, rest)

/-- The next characters that count, as many as asked for. -/
def counted? (flags : Flags) : Nat → List Char → Option (List Char × List Char)
  | 0, cs => some ([], cs)
  | n + 1, cs =>
    match skip flags cs with
    | [] => none
    | c :: r => (counted? flags n r).map fun (front, rest) => (c :: front, rest)

/-- A code point in braces, or in a fixed number of digits. -/
def hexChar? (flags : Flags) (width : Nat) (cs : List Char) : Option (Char × List Char) := do
  let (digits, rest) ← match skip flags cs with
    | '\x7b' :: r => braced? flags false r
    | cs => counted? flags width cs
  let n ← Numeral.number? 16 digits
  let c ← Numeral.scalar? n
  some (c, rest)

/-- The character that an escape stands for, after its backslash. -/
def escapedChar? (flags : Flags) : List Char → Option (Char × List Char)
  | 'a' :: r => some ('\x07', r)
  | 'f' :: r => some ('\x0c', r)
  | 'n' :: r => some ('\n', r)
  | 'r' :: r => some ('\r', r)
  | 't' :: r => some ('\t', r)
  | 'v' :: r => some ('\x0b', r)
  | 'x' :: r => hexChar? flags 2 r
  | 'u' :: r => hexChar? flags 4 r
  | 'U' :: r => hexChar? flags 8 r
  | c :: r =>
    if c.toNat < 0x80 ∧ !c.isAlphanum ∧ c ≠ '<' ∧ c ≠ '>' then some (c, r) else none
  | [] => none

/-- A property after `p`: one letter or a name in braces. Its case variants are added before it is
complemented. -/
def property? (flags : Flags) (negated : Bool) (cs : List Char) : Option (Charset × List Char) := do
  let (name, rest) ← match skip flags cs with
    | '\x7b' :: r => braced? flags false r
    | cs => counted? flags 1 cs
  let (unequal, set) ← Charset.ofProperty? name
  some ((set.foldIf flags.caseless).negateIf (negated != unequal), rest)

/-- The class that an escape stands for, after its backslash. -/
def escapedSet? (flags : Flags) : List Char → Option (Charset × List Char)
  | 'p' :: r => property? flags false r
  | 'P' :: r => property? flags true r
  | c :: r => (Charset.ofLetter? c).map fun set => (set, r)
  | [] => none

/-- The kind of a word boundary that is named in braces. -/
def boundaryKind? (flags : Flags) (cs : List Char) : Option (Look × List Char) := do
  let (name, rest) ← braced? flags false cs
  match String.ofList name with
  | "start" => some (.wordStart, rest)
  | "end" => some (.wordEnd, rest)
  | "start-half" => some (.wordStartHalf, rest)
  | "end-half" => some (.wordEndHalf, rest)
  | _ => none

/-- The assertion that an escape stands for, after its backslash. -/
def escapedLook? (flags : Flags) : List Char → Option (Look × List Char)
  | 'A' :: r => some (.textStart, r)
  | 'z' :: r => some (.textEnd, r)
  | '<' :: r => some (.wordStart, r)
  | '>' :: r => some (.wordEnd, r)
  | 'B' :: r => some (.notWordBoundary, r)
  | 'b' :: '\x7b' :: r => boundaryKind? flags r <|> some (.wordBoundary, '\x7b' :: r)
  | 'b' :: r => some (.wordBoundary, r)
  | _ => none

end Reader

end LateBinding.Pattern
