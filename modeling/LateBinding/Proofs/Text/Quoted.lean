import LateBinding.Number.Numeral
import LateBinding.Text.Quoted

/-! # Reading quoted text back

A quoted text is read up to the quotation mark that ends it. What stands behind the mark is left
alone, so quoted texts can be told apart in front of any text.
-/

namespace LateBinding.Quoted

def ofLetter? : Char → Option Char
  | '"' => some '"'
  | '\\' => some '\\'
  | '#' => some '#'
  | 'n' => some '\n'
  | 't' => some '\t'
  | 'r' => some '\r'
  | 'f' => some '\x0c'
  | 'v' => some '\x0b'
  | 'b' => some '\x08'
  | 'a' => some '\x07'
  | 'e' => some '\x1b'
  | _ => none

def ofHex? (digits : List Char) : Option Char := (Numeral.number? 16 digits).bind Numeral.scalar?

/-- Reads a text that began with a quotation mark, and leaves what follows the mark that ends it. -/
def read? : List Char → Option (List Char × List Char)
  | [] => none
  | '"' :: rest => some ([], rest)
  | '\\' :: 'u' :: a :: b :: c :: d :: rest => do
    let x ← ofHex? [a, b, c, d]
    let (cs, rest) ← read? rest
    return (x :: cs, rest)
  | '\\' :: l :: rest => do
    let x ← ofLetter? l
    let (cs, rest) ← read? rest
    return (x :: cs, rest)
  | c :: rest => if c = '\\' then none else (read? rest).map fun (cs, rest) => (c :: cs, rest)

variable {c : Char} {cs ds rest rest' : List Char}

theorem ofHex?_hex4 (hc : isControl c = true) : ofHex? (hex4 c.toNat) = some c := by
  have hsmall : c.toNat < 160 := by
    unfold isControl at hc
    simp only [Bool.or_eq_true, Bool.and_eq_true, decide_eq_true_eq] at hc
    omega
  have hall : ∀ n < 160, Numeral.number? 16 (hex4 n) = some n := by decide +kernel
  unfold ofHex? Numeral.scalar?
  rw [hall _ hsmall, Option.bind_some, if_pos (.inl (by omega)), Char.ofNat_toNat]

/-- An escaped character is read as one character. A number sign is escaped by what follows it. -/
theorem read?_escapeChar (hc : c ≠ '#') (t : List Char) :
    read? (escapeChar c ++ t) = (read? t).map fun (cs, rest) => (c :: cs, rest) := by
  unfold escapeChar
  split
  · next l hl =>
    unfold letter? at hl
    split at hl <;> cases hl <;> cases h : read? t <;> simp [read?, ofLetter?, h]
  · next hl =>
    split
    · next hcontrol =>
      have hhex := ofHex?_hex4 hcontrol
      unfold hex4 at hhex ⊢
      cases h : read? t <;> simp [read?, hhex, h]
    · have hquote : c ≠ '"' := by rintro rfl; cases hl
      have hback : c ≠ '\\' := by rintro rfl; cases hl
      simp [read?, hback]

theorem read?_escape (cs rest : List Char) :
    read? (escape cs ++ '"' :: rest) = some (cs, rest) := by
  induction cs with
  | nil => simp [escape, read?]
  | cons c cs ih =>
    unfold escape
    split
    · next hc =>
      subst hc
      split <;> simp [read?, ofLetter?, ih]
    · next hc => rw [List.append_assoc, read?_escapeChar hc, ih, Option.map_some]

theorem quoteChars_append_inj (h : quoteChars cs ++ rest = quoteChars ds ++ rest') :
    cs = ds ∧ rest = rest' := by
  simp only [quoteChars, List.cons_append, List.append_assoc, List.nil_append, List.cons.injEq,
    true_and] at h
  have hread := read?_escape cs rest
  rw [h, read?_escape, Option.some.injEq, Prod.mk.injEq] at hread
  exact ⟨hread.1.symm, hread.2.symm⟩

end LateBinding.Quoted
