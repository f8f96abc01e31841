import LateBinding.Pattern.NamedClass

/-! # Patterns

The abstract syntax of regular expressions with groups, greedy and lazy repetition and
assertions. -/

namespace LateBinding

/-- Conditions on a position. -/
inductive Look
  | textStart
  | textEnd
  | lineStart
  | lineEnd
  | wordBoundary
  | notWordBoundary
  | wordStart
  | wordEnd
  | wordStartHalf
  | wordEndHalf
  deriving DecidableEq, Repr

inductive Pattern
  | empty
  | one (set : Charset)
  | look (l : Look)
  | seq (a b : Pattern)
  | alt (a b : Pattern)
  | rep (a : Pattern) (min : Nat) (max : Option Nat) (greedy : Bool)
  | group (index : Nat) (name : Option String) (a : Pattern)
  deriving DecidableEq, Repr

namespace Pattern

/-- The groups of a pattern with their names. -/
def groups : Pattern → List (Nat × Option String)
  | empty | one _ | look _ => []
  | seq a b | alt a b => a.groups ++ b.groups
  | rep a _ _ _ => a.groups
  | group i name a => (i, name) :: a.groups

/-- The name of each group by its number, the whole match being number zero. -/
def groupNames (p : Pattern) : List (Option String) :=
  let gs := p.groups
  let top := gs.foldl (fun n g => max n g.1) 0
  (List.range (top + 1)).map fun i => (gs.lookup i).join

end Pattern

end LateBinding
