/-! # Quoted text

A text between double quotes. Escapes stand for the characters that would end the quotation, open an
interpolation or not be seen; all others stand for themselves. -/

namespace LateBinding.Quoted

/-- The letter that follows the backslash in a one-letter escape. -/
def letter? : Char → Option Char
  | '"' => some '"'
  | '\\' => some '\\'
  | '\n' => some 'n'
  | '\t' => some 't'
  | '\r' => some 'r'
  | '\x0c' => some 'f'
  | '\x0b' => some 'v'
  | '\x08' => some 'b'
  | '\x07' => some 'a'
  | '\x1b' => some 'e'
  | _ => none

def isControl (c : Char) : Bool :=
  c.toNat < 0x20 || (0x7f ≤ c.toNat && c.toNat < 0xa0)

def hexDigit (n : Nat) : Char :=
  if n < 10 then Char.ofNat ('0'.toNat + n) else Char.ofNat ('A'.toNat + (n - 10))

/-- The last four hexadecimal digits of `n`. -/
def hex4 (n : Nat) : List Char :=
  [hexDigit (n / 4096 % 16), hexDigit (n / 256 % 16), hexDigit (n / 16 % 16), hexDigit (n % 16)]

def escapeChar (c : Char) : List Char :=
  match letter? c with
  | some l => ['\\', l]
  | none => if isControl c then '\\' :: 'u' :: hex4 c.toNat else [c]

/-- Whether a `#` before this text would open an interpolation. -/
def opensInterpolation : List Char → Bool
  | c :: _ => c == '\x7b' || c == '$' || c == '@'
  | [] => false

def escape : List Char → List Char
  | [] => []
  | c :: r =>
    if c = '#' then
      if opensInterpolation r then '\\' :: '#' :: escape r else '#' :: escape r
    else escapeChar c ++ escape r

def quoteChars (cs : List Char) : List Char :=
  '"' :: (escape cs ++ ['"'])

end LateBinding.Quoted

namespace LateBinding

def quote (text : String) : String :=
  String.ofList (Quoted.quoteChars text.toList)

end LateBinding
