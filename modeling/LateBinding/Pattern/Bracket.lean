import LateBinding.Pattern.Escape

/-! # Bracketed classes

Characters, ranges and classes between brackets, with the operators between them. -/

namespace LateBinding.Pattern.Reader

/-- An operator between the parts of a class. -/
inductive ClassOp | inter | diff | symmDiff

def ClassOp.apply : ClassOp → Charset → Charset → Charset
  | inter => Charset.inter
  | diff => Charset.diff
  | symmDiff => Charset.symmDiff

/-- A class named between `[:` and `:]`, after the opening bracket. Its case variants are added
before it is complemented. -/
def asciiClass? (flags : Flags) : List Char → Option (Charset × List Char)
  | ':' :: r =>
    let negated := r.head? == some '^'
    let r := if negated then r.drop 1 else r
    let name := r.takeWhile (·.isAlpha)
    match r.drop name.length with
    | ':' :: ']' :: rest =>
      (Charset.ofAsciiName? (String.ofList name)).map fun set =>
        ((set.foldIf flags.caseless).negateIf negated, rest)
    | _ => none
  | _ => none

/-- One character of a class, plain or escaped. -/
def classChar? (flags : Flags) : List Char → Option (Char × List Char)
  | '\\' :: r => escapedChar? flags r
  | c :: r => some (c, r)
  | [] => none

/-- What has been read of a class: the union of the items since the last operator, and what stands
to the left of that operator. -/
structure ClassSoFar where
  items : Charset
  left : Option (Charset × ClassOp)

def ClassSoFar.start : ClassSoFar := ⟨.none, none⟩

def ClassSoFar.add (s : ClassSoFar) (set : Charset) : ClassSoFar :=
  { s with items := .union s.items set }

def ClassSoFar.close (s : ClassSoFar) (folded : Bool) : Charset :=
  match s.left with
  | none => s.items
  | some (left, op) => op.apply (left.foldIf folded) (s.items.foldIf folded)

def ClassSoFar.operator (s : ClassSoFar) (folded : Bool) (op : ClassOp) : ClassSoFar :=
  ⟨.none, some (s.close folded, op)⟩

/-- The character after a hyphen by which a range is told from a hyphen that stands for itself. Of a
comment only its sign is passed over here. -/
def glance (flags : Flags) (cs : List Char) : Option Char :=
  if flags.extended then
    match cs.dropWhile Unicode.isSpace with
    | '#' :: r => (r.dropWhile Unicode.isSpace).head?
    | cs => cs.head?
  else cs.head?

/-- A single character or a range of them. -/
def classRange? (flags : Flags) (cs : List Char) : Option (Charset × List Char) := do
  let (a, r) ← classChar? flags cs
  match skip flags r with
  | '-' :: r₂ =>
    match glance flags r₂ with
    | some ']' | some '-' | none => some (.single a, '-' :: r₂)
    | some _ => do
      let (b, r₃) ← classChar? flags (skip flags r₂)
      if a ≤ b then some (.span a b, r₃) else none
  | r => some (.single a, r)

/-- Drops the hyphens at the front, and the blanks after each. -/
def dropHyphens (flags : Flags) : Nat → List Char → List Char
  | n + 1, '-' :: r => dropHyphens flags n (skip flags r)
  | _, cs => cs

/-- The sign and the leading literals of a class, after its opening bracket. -/
def classHead (flags : Flags) (cs : List Char) : Bool × ClassSoFar × List Char :=
  let cs := skip flags cs
  let negated := cs.head? == some '^'
  let cs := skip flags (if negated then cs.drop 1 else cs)
  if cs.head? == some '-' then
    (negated, ClassSoFar.start.add (.single '-'), dropHyphens flags cs.length cs)
  else if cs.head? == some ']' then (negated, ClassSoFar.start.add (.single ']'), cs.drop 1)
  else (negated, .start, cs)

/-- The rest of a class, up to and with its closing bracket. -/
def classBody (flags : Flags) : Nat → ClassSoFar → List Char → Option (Charset × List Char)
  | 0, _, _ => none
  | n + 1, s, cs =>
    match skip flags cs with
    | [] => none
    | ']' :: r => some (s.close flags.caseless, r)
    | '&' :: '&' :: r => classBody flags n (s.operator flags.caseless .inter) r
    | '-' :: '-' :: r => classBody flags n (s.operator flags.caseless .diff) r
    | '~' :: '~' :: r => classBody flags n (s.operator flags.caseless .symmDiff) r
    | '[' :: r =>
      match asciiClass? flags r with
      | some (set, rest) => classBody flags n (s.add set) rest
      | none =>
        let (negated, inner, r) := classHead flags r
        match classBody flags n inner r with
        | some (set, rest) =>
          classBody flags n (s.add ((set.foldIf flags.caseless).negateIf negated)) rest
        | none => none
    | '\\' :: r =>
      match escapedSet? flags r with
      | some (set, rest) => classBody flags n (s.add set) rest
      | none =>
        match classRange? flags ('\\' :: r) with
        | some (set, rest) => classBody flags n (s.add set) rest
        | none => none
    | cs =>
      match classRange? flags cs with
      | some (set, rest) => classBody flags n (s.add set) rest
      | none => none

/-- A bracketed class, after its opening bracket. -/
def bracketed? (flags : Flags) (cs : List Char) : Option (Charset × List Char) :=
  let (negated, s, r) := classHead flags cs
  (classBody flags (cs.length + 1) s r).map fun (set, rest) =>
    ((set.foldIf flags.caseless).negateIf negated, rest)

end LateBinding.Pattern.Reader
