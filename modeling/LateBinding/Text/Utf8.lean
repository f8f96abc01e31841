/-! # UTF-8

Reading takes the longest well-formed start of a byte sequence: no overlong form, no surrogate,
nothing above the last code point, no cut-off tail. -/

namespace LateBinding.Utf8

def encodeChar (c : Char) : List UInt8 := String.utf8EncodeChar c

def encode (cs : List Char) : List UInt8 := cs.flatMap encodeChar

def isContinuation (b : UInt8) : Bool := 0x80 ≤ b && b < 0xc0

/-- The six low bits of a continuation byte. -/
def low6 (b : UInt8) : Nat := b.toNat % 0x40

/-- The second bytes that may follow a given first byte of three or four. -/
def secondFits (first second : UInt8) : Bool :=
  isContinuation second &&
    (first != 0xe0 || 0xa0 ≤ second) && (first != 0xed || second < 0xa0) &&
    (first != 0xf0 || 0x90 ≤ second) && (first != 0xf4 || second < 0x90)

/-- The characters of the longest well-formed start, and the bytes after it. -/
def decode : List UInt8 → List Char × List UInt8
  | [] => ([], [])
  | a :: r =>
    if a < 0x80 then
      let (cs, rest) := decode r
      (Char.ofNat a.toNat :: cs, rest)
    else
      match r with
      | [] => ([], [a])
      | b :: r₂ =>
        if 0xc2 ≤ a && a < 0xe0 then
          if isContinuation b then
            let (cs, rest) := decode r₂
            (Char.ofNat (a.toNat % 0x20 * 0x40 + low6 b) :: cs, rest)
          else ([], a :: b :: r₂)
        else
          match r₂ with
          | [] => ([], [a, b])
          | c :: r₃ =>
            if 0xe0 ≤ a && a < 0xf0 then
              if secondFits a b && isContinuation c then
                let (cs, rest) := decode r₃
                (Char.ofNat (a.toNat % 0x10 * 0x1000 + low6 b * 0x40 + low6 c) :: cs, rest)
              else ([], a :: b :: c :: r₃)
            else
              match r₃ with
              | [] => ([], [a, b, c])
              | d :: r₄ =>
                if 0xf0 ≤ a && a < 0xf5 && secondFits a b && isContinuation c &&
                  isContinuation d then
                  let (cs, rest) := decode r₄
                  (Char.ofNat (a.toNat % 0x8 * 0x40000 + low6 b * 0x1000 + low6 c * 0x40 + low6 d)
                    :: cs, rest)
                else ([], a :: b :: c :: d :: r₄)

/-- The text that the bytes encode, or the length of their longest well-formed start. -/
def text? (bytes : List UInt8) : Except Nat String :=
  match decode bytes with
  | (cs, []) => .ok (String.ofList cs)
  | (_, rest) => .error (bytes.length - rest.length)

end LateBinding.Utf8
