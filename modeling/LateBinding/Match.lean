import LateBinding.Pattern.Reader
import LateBinding.Pattern.Search
import LateBinding.Text.Quoted
import LateBinding.Text.Slice

/-! # Matches

A match keeps its subject and the byte spans of its groups, the whole match being group zero. -/

namespace LateBinding

structure Regexp where
  id : Nat
  source : String
  deriving DecidableEq, Repr

namespace Regexp

/-- The pattern; a source that is none matches nothing. -/
def pattern (r : Regexp) : Pattern := (Pattern.read? r.source).getD (.one .none)

/-- The names of the groups by number. -/
def groupNames (r : Regexp) : List (Option String) := r.pattern.groupNames

end Regexp

/-- From byte `start` to byte `stop`. -/
structure Span where
  start : Nat
  stop : Nat
  deriving DecidableEq, Repr

structure Match where
  id : Nat
  regexp : Regexp
  subject : String
  groups : List (Option Span)
  deriving DecidableEq, Repr

namespace Match

/-- The number of the first character that starts at byte `offset` or later. -/
def charIndex (offset : Nat) : List Char → Nat
  | [] => 0
  | c :: r => if offset = 0 then 0 else charIndex (offset - c.utf8Size) r + 1

/-- The bytes that the first `n` characters take. -/
def byteOffset (cs : List Char) (n : Nat) : Nat := Slice.byteSize (cs.take n)

/-- The spans of the groups in the leftmost match from byte `start` on. -/
def spans? (regexp : Regexp) (subject : String) (start : Nat) : Option (List (Option Span)) :=
  let cs := subject.toList
  if subject.utf8ByteSize < start then none
  else
    (regexp.pattern.search cs (charIndex start cs)).map fun groups =>
      groups.map fun group => group.map fun (a, b) => ⟨byteOffset cs a, byteOffset cs b⟩

/-- A search may start anywhere in its subject, at its end, or one byte behind it, where it finds
nothing. -/
def mayStart (subject : String) (start : Nat) : Bool := start ≤ subject.utf8ByteSize + 1

/-- The number of groups, the whole match among them. -/
def size (m : Match) : Nat := m.groups.length

def span? (m : Match) (i : Nat) : Option Span := m.groups[i]?.join

/-- The text of a group that took part. -/
def get? (m : Match) (i : Nat) : Option String :=
  (m.span? i).bind fun s => (Slice.between? s.start s.stop m.subject.toList).map String.ofList

/-- The number of the first group of that name. -/
def groupNamed? (m : Match) (name : String) : Option Nat :=
  m.regexp.groupNames.findIdx? (· == some name)

def named? (m : Match) (name : String) : Option String := (m.groupNamed? name).bind m.get?

/-- The text of the whole match. -/
def matched (m : Match) : String := (m.get? 0).getD ""

/-- The characters before a group that took part. The outer `none` says that the span does not fit
the subject. -/
def begin? (m : Match) (i : Nat) : Option (Option Nat) :=
  match m.span? i with
  | none => some none
  | some s => (Slice.before? s.start m.subject.toList).map fun cs => some cs.length

def pre? (m : Match) : Option String :=
  match m.span? 0 with
  | none => some ""
  | some s => (Slice.before? s.start m.subject.toList).map String.ofList

def post? (m : Match) : Option String :=
  match m.span? 0 with
  | none => some ""
  | some s => (Slice.after? s.stop m.subject.toList).map String.ofList

/-- The texts of the groups after the whole match. -/
def captures (m : Match) : List (Option String) :=
  (List.range' 1 (m.size - 1)).map m.get?

def label (m : Match) (i : Nat) : String :=
  match m.regexp.groupNames[i]?.join with
  | some name => name
  | none => toString i

def inspectGroup (m : Match) (i : Nat) : String :=
  " " ++ m.label i ++ ":" ++ (match m.get? i with | some text => quote text | none => "nil")

def inspect (m : Match) : String :=
  "#<MatchData " ++ quote m.matched ++
    String.join ((List.range' 1 (m.size - 1)).map m.inspectGroup) ++ ">"

/-- Equality of matches: the same pattern on the same subject with the same spans. -/
def eql (a b : Match) : Bool :=
  a.regexp.source == b.regexp.source && a.subject == b.subject && a.groups == b.groups

end Match

end LateBinding
