import LateBinding.Unicode.Folding

/-! # Character sets

Sets of characters by their parts: runs of code points under the Boolean operations, and the case
variants of a set. -/

namespace LateBinding

inductive Charset
  | none
  | any
  | range (first last : Nat)
  | runs (runs : List Unicode.Run)
  | compl (a : Charset)
  | union (a b : Charset)
  | inter (a b : Charset)
  /-- The characters with a case variant in the set. -/
  | caseless (a : Charset)
  deriving DecidableEq, Repr

namespace Charset

def has : Charset → Char → Bool
  | none, _ => false
  | any, _ => true
  | range first last, c => first ≤ c.toNat && c.toNat ≤ last
  | runs rs, c => Unicode.inRuns rs c
  | compl a, c => !a.has c
  | union a b, c => a.has c || b.has c
  | inter a b, c => a.has c && b.has c
  | caseless a, c => (Unicode.caseVariants c).any fun v => a.has v

def single (c : Char) : Charset := range c.toNat c.toNat

def span (first last : Char) : Charset := range first.toNat last.toNat

def diff (a b : Charset) : Charset := inter a (compl b)

def symmDiff (a b : Charset) : Charset := union (diff a b) (diff b a)

def unionAll (sets : List Charset) : Charset := sets.foldr union none

def negateIf (negated : Bool) (a : Charset) : Charset := if negated then compl a else a

def foldIf (folded : Bool) (a : Charset) : Charset := if folded then caseless a else a

end Charset

end LateBinding
