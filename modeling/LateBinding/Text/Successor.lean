/-! # The successor of a text

The rightmost ASCII letter or digit is advanced and carries into the next one to its left, across
other characters, but not from a letter to a digit or back when anything stands between them. A
carry that finds no room adds a character in front of the last one that rolled over. A text without
letters and digits counts in code points. -/

namespace LateBinding.Successor

def isAlnum (c : Char) : Bool := c.isAlphanum

/-- The next of the same class and whether it rolled over; `none` unless an ASCII letter or
digit. -/
def next? (c : Char) : Option (Char × Bool) :=
  if c = '9' then some ('0', true)
  else if c = 'z' then some ('a', true)
  else if c = 'Z' then some ('A', true)
  else if isAlnum c then some (Char.ofNat (c.toNat + 1), false)
  else none

/-- What a carry out of `c` adds. -/
def carryOut (c : Char) : Char :=
  if c.isDigit then '1' else if c.isLower then 'a' else 'A'

/-- One is a letter and the other a digit. -/
def crosses (a b : Char) : Bool :=
  (a.isAlpha && b.isDigit) || (a.isDigit && b.isAlpha)

/-- Advances the first letter or digit of a text read from right to left. `last` is the one that
rolled over before, `apart` whether other characters have been passed since. `none` when nothing
takes the carry. -/
def carry (last : Option Char) (apart : Bool) : List Char → Option (List Char)
  | [] => none
  | c :: r =>
    if apart && last.any (crosses · c) then none
    else
      match next? c with
      | none => (carry last true r).map (c :: ·)
      | some (d, false) => some (d :: r)
      | some (d, true) =>
        match carry (some d) false r with
        | some r' => some (d :: r')
        | none => some (d :: carryOut c :: r)

/-- The next Unicode scalar value; `none` after the last. -/
def nextScalar? (c : Char) : Option Char :=
  if c.toNat = 0xd7ff then some (Char.ofNat 0xe000)
  else if c.toNat = 0x10ffff then none
  else some (Char.ofNat (c.toNat + 1))

/-- Counts up a text read from right to left as a numeral whose digits are all the code points. -/
def countUp : List Char → List Char
  | [] => [Char.ofNat 1]
  | c :: r =>
    match nextScalar? c with
    | some d => d :: r
    | none => Char.ofNat 0 :: countUp r

def succChars (cs : List Char) : List Char :=
  if cs = [] then []
  else if cs.any isAlnum then ((carry none false cs.reverse).getD cs.reverse).reverse
  else (countUp cs.reverse).reverse

end LateBinding.Successor

namespace LateBinding

def succ (text : String) : String :=
  String.ofList (Successor.succChars text.toList)

end LateBinding
