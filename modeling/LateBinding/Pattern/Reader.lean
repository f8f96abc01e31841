import LateBinding.Pattern.Bracket

/-! # Reading patterns

The written form of patterns: literals, escapes, classes, groups, flags and quantifiers. Every step
takes characters off the front of the text, so its length bounds the nesting. -/

namespace LateBinding.Pattern

namespace Reader

def literal (flags : Flags) (c : Char) : Pattern :=
  .one ((Charset.single c).foldIf flags.caseless)

/-- A part that is no group. -/
def atom? (flags : Flags) : List Char → Option (Pattern × List Char)
  | [] => none
  | '.' :: r => some (.one (if flags.dotAll then .any else .notNewline), r)
  | '^' :: r => some (.look (if flags.multiLine then .lineStart else .textStart), r)
  | '$' :: r => some (.look (if flags.multiLine then .lineEnd else .textEnd), r)
  | '[' :: r => (bracketed? flags r).map fun (set, rest) => (.one set, rest)
  | '\\' :: r =>
    match escapedSet? flags r with
    | some (set, rest) => some (.one set, rest)
    | none =>
      match escapedLook? flags r with
      | some (l, rest) => some (.look l, rest)
      | none => (escapedChar? flags r).map fun (c, rest) => (literal flags c, rest)
  | c :: r => if c ∈ ['*', '+', '?', '\x7b', '(', ')', '|'] then none else some (literal flags c, r)

/-- The bounds of a counted repetition, after its opening brace. -/
def bounds? (flags : Flags) (cs : List Char) : Option ((Nat × Option Nat) × List Char) := do
  let (body, rest) ← braced? flags false cs
  let low := (body.takeWhile (· != ',')).filter (! Unicode.isSpace ·)
  let high := (body.dropWhile (· != ',')).filter (! Unicode.isSpace ·)
  let min ← Numeral.number? 10 low
  let max ← match high with
    | [] => some (some min)
    | [_] => some none
    | _ :: digits => (Numeral.number? 10 digits).map some
  if max.all (min ≤ ·) then some ((min, max), rest) else none

def repeatOf (a : Pattern) (min : Nat) (max : Option Nat) (greedy : Bool) : Pattern :=
  if max = some 0 then .empty
  else if min = 1 ∧ max = some 1 then a
  else .rep a min max greedy

/-- Applies the quantifiers that follow a part. -/
def quantified? (flags : Flags) : Nat → Pattern → List Char → Option (Pattern × List Char)
  | 0, _, _ => none
  | n + 1, a, cs =>
    let apply (range : Nat × Option Nat) (r : List Char) : Option (Pattern × List Char) :=
      match r with
      | '?' :: r => quantified? flags n (repeatOf a range.1 range.2 flags.swapGreed) r
      | r => quantified? flags n (repeatOf a range.1 range.2 (!flags.swapGreed)) r
    match skip flags cs with
    | '*' :: r => apply (0, none) r
    | '+' :: r => apply (1, none) r
    | '?' :: r => apply (0, some 1) r
    | '\x7b' :: r => (bounds? flags r).bind fun (range, rest) => apply range (skip flags rest)
    | r => some (a, r)

/-- What a parenthesis opens. -/
inductive Opening
  | flags (flags : Flags)
  | inner (flags : Flags)
  | group (name : Option String)

/-- Flags up to a colon or a closing parenthesis; those after a minus sign are turned off. -/
def flags? (flags : Flags) (on : Bool) : List Char → Option (Opening × List Char)
  | ')' :: r => some (.flags flags, r)
  | ':' :: r => some (.inner flags, r)
  | '-' :: r => flags? flags false r
  | 'i' :: r => flags? { flags with caseless := on } on r
  | 'm' :: r => flags? { flags with multiLine := on } on r
  | 's' :: r => flags? { flags with dotAll := on } on r
  | 'U' :: r => flags? { flags with swapGreed := on } on r
  | 'x' :: r => flags? { flags with extended := on } on r
  | 'u' :: r => flags? flags on r
  | _ => none

def groupName? (cs : List Char) : Option (Opening × List Char) :=
  let name := cs.takeWhile (· != '>')
  match name, cs.drop name.length with
  | _ :: _, _ :: rest => some (.group (some (String.ofList name)), rest)
  | _, _ => none

/-- What stands after an opening parenthesis and before the contents of the group. -/
def opening? (flags : Flags) : List Char → Option (Opening × List Char)
  | '?' :: 'P' :: '<' :: r => groupName? r
  | '?' :: '<' :: r => groupName? r
  | '?' :: r => flags? flags true r
  | r => some (.group none, r)

/-- What has been read of a group: the finished alternatives and the parts of the current one, both
in reverse, and the number of the next group. -/
structure BodySoFar where
  alternatives : List Pattern
  parts : List Pattern
  nextGroup : Nat

def BodySoFar.start (nextGroup : Nat) : BodySoFar := ⟨[], [], nextGroup⟩

def BodySoFar.current (s : BodySoFar) : Pattern :=
  s.parts.foldl (fun rest p => if rest = .empty then p else .seq p rest) .empty

def BodySoFar.close (s : BodySoFar) : Pattern :=
  s.alternatives.foldl (fun rest p => .alt p rest) s.current

def BodySoFar.add (s : BodySoFar) (p : Pattern) (nextGroup : Nat) : BodySoFar :=
  ⟨s.alternatives, p :: s.parts, nextGroup⟩

def BodySoFar.newAlternative (s : BodySoFar) : BodySoFar :=
  ⟨s.current :: s.alternatives, [], s.nextGroup⟩

/-- The contents of a group, up to its closing parenthesis or the end of the text. -/
def body : Nat → Flags → BodySoFar → List Char → Option (Pattern × Nat × List Char)
  | 0, _, _, _ => none
  | n + 1, flags, s, cs =>
    match skip flags cs with
    | [] => some (s.close, s.nextGroup, [])
    | ')' :: r => some (s.close, s.nextGroup, ')' :: r)
    | '|' :: r => body n flags s.newAlternative r
    | '(' :: r =>
      match opening? flags (skip flags r) with
      | some (.flags flags, r) => body n flags s r
      | some (.inner inside, r) =>
        match body n inside (.start s.nextGroup) r with
        | some (p, next, ')' :: r) =>
          match quantified? flags (r.length + 1) p r with
          | some (q, r) => body n flags (s.add q next) r
          | none => none
        | _ => none
      | some (.group name, r) =>
        match body n flags (.start (s.nextGroup + 1)) r with
        | some (p, next, ')' :: r) =>
          match quantified? flags (r.length + 1) (.group s.nextGroup name p) r with
          | some (q, r) => body n flags (s.add q next) r
          | none => none
        | _ => none
      | none => none
    | cs =>
      match atom? flags cs with
      | some (p, r) =>
        match quantified? flags (r.length + 1) p r with
        | some (q, r) => body n flags (s.add q s.nextGroup) r
        | none => none
      | none => none

end Reader

/-- The pattern that a text writes; `none` when it is no pattern. -/
def read? (text : String) : Option Pattern :=
  let cs := text.toList
  match Reader.body (cs.length + 1) Reader.plainFlags (.start 1) cs with
  | some (p, _, []) => some p
  | _ => none

end LateBinding.Pattern
