import LateBinding.Text.Successor
import Mathlib.Data.Nat.Notation
import Mathlib.Tactic.SplitIfs

/-! # Letters and digits

An ASCII letter or digit has a kind, and among its kind a place: it is a digit of a numeral in which
every place has its own radix. Adding one to such a numeral turns on the wheels of an odometer.
-/

namespace LateBinding.Successor

inductive Kind
  | digit | lower | upper
  deriving DecidableEq, Repr

namespace Kind

def first : Kind → Char
  | digit => '0'
  | lower => 'a'
  | upper => 'A'

def last : Kind → Char
  | digit => '9'
  | lower => 'z'
  | upper => 'Z'

/-- The wheel that is put in front of the others. -/
def front : Kind → Char
  | digit => '1'
  | lower => 'a'
  | upper => 'A'

def radix : Kind → ℕ
  | digit => 10
  | lower | upper => 26

end Kind

def kind? (c : Char) : Option Kind :=
  if c.isDigit then some .digit
  else if c.isLower then some .lower
  else if c.isUpper then some .upper
  else none

def isLast (c : Char) : Bool := (kind? c).any (·.last == c)

def reset (c : Char) : Char := ((kind? c).map Kind.first).getD c

def advance (c : Char) : Char := Char.ofNat (c.toNat + 1)

variable {c d : Char} {k l : Kind} {cs : List Char}

theorem isAlnum_eq : isAlnum c = (kind? c).isSome := by
  change ((c.isUpper || c.isLower) || c.isDigit) = _
  unfold kind?
  cases c.isDigit <;> cases c.isLower <;> cases c.isUpper <;> rfl

theorem isDigit_iff : c.isDigit = true ↔ 48 ≤ c.toNat ∧ c.toNat ≤ 57 := Char.isDigit_iff_toNat

theorem isLower_iff : c.isLower = true ↔ 97 ≤ c.toNat ∧ c.toNat ≤ 122 := by
  change (decide (97 ≤ c.val) && decide (c.val ≤ 122)) = true ↔ _
  simp [UInt32.le_iff_toNat_le, Char.toNat_val]

theorem isUpper_iff : c.isUpper = true ↔ 65 ≤ c.toNat ∧ c.toNat ≤ 90 := by
  change decide (65 ≤ c.val ∧ c.val ≤ 90) = true ↔ _
  simp [UInt32.le_iff_toNat_le, Char.toNat_val]

theorem kind?_eq_some_iff : kind? c = some k ↔ k.first.toNat ≤ c.toNat ∧
    c.toNat ≤ k.last.toNat := by
  constructor
  · intro h
    unfold kind? at h
    split_ifs at h with hdigit hlower hupper <;> cases h
    · exact isDigit_iff.mp hdigit
    · exact isLower_iff.mp hlower
    · exact isUpper_iff.mp hupper
  · intro h
    cases k with
    | digit =>
      have hdigit : c.isDigit = true := isDigit_iff.mpr h
      simp [kind?, hdigit]
    | lower =>
      have hlower : c.isLower = true := isLower_iff.mpr h
      have hdigit : ¬ c.isDigit = true := by
        rw [isDigit_iff]
        rw [isLower_iff] at hlower
        omega
      simp [kind?, hdigit, hlower]
    | upper =>
      have hupper : c.isUpper = true := isUpper_iff.mpr h
      have hdigit : ¬ c.isDigit = true := by
        rw [isDigit_iff]
        rw [isUpper_iff] at hupper
        omega
      have hlower : ¬ c.isLower = true := by
        rw [isLower_iff]
        rw [isUpper_iff] at hupper
        omega
      simp [kind?, hdigit, hlower, hupper]

theorem first_le_toNat (h : kind? c = some k) : k.first.toNat ≤ c.toNat :=
  (kind?_eq_some_iff.mp h).1

@[simp] theorem kind?_first : kind? k.first = some k := by
  cases k <;> rfl

@[simp] theorem kind?_last : kind? k.last = some k := by
  cases k <;> rfl

theorem reset_eq (h : kind? c = some k) : reset c = k.first := by
  simp [reset, h]

theorem isLast_iff (h : kind? c = some k) : isLast c = true ↔ c = k.last := by
  simp only [isLast, h, Option.any_some, beq_iff_eq]
  exact eq_comm

theorem ne_last (hlast : isLast c = false) (l : Kind) : c ≠ l.last := by
  rintro rfl
  simp [isLast] at hlast

theorem toNat_of_isLast (h : kind? c = some k) (hlast : isLast c = true) :
    c.toNat + 1 = k.first.toNat + k.radix := by
  rw [(isLast_iff h).mp hlast]
  cases k <;> rfl

theorem toNat_advance (h : kind? c = some k) : (advance c).toNat = c.toNat + 1 := by
  have hlast : k.last.toNat ≤ 122 := by cases k <;> decide
  have hle := (kind?_eq_some_iff.mp h).2
  have hvalid : (c.toNat + 1).isValidChar := .inl (by omega)
  rw [advance, Char.ofNat, dif_pos hvalid]
  rfl

theorem kind?_advance (h : kind? c = some k) (hlast : isLast c = false) :
    kind? (advance c) = some k := by
  have hne : c.toNat ≠ k.last.toNat := fun heq => ne_last hlast k (Char.toNat_inj.mp heq)
  rw [kind?_eq_some_iff] at h ⊢
  rw [toNat_advance (kind?_eq_some_iff.mpr h)]
  omega

theorem isDigit_eq_true_iff (h : kind? c = some k) : c.isDigit = true ↔ k = .digit := by
  unfold kind? at h
  split_ifs at h with hdigit hlower hupper <;> cases h <;> simp [hdigit]

theorem isAlpha_eq_true_iff (h : kind? c = some k) : c.isAlpha = true ↔ k ≠ .digit := by
  have hbounds := kind?_eq_some_iff.mp h
  change (c.isUpper || c.isLower) = true ↔ _
  rw [Bool.or_eq_true, isUpper_iff, isLower_iff]
  cases k with
  | digit =>
    have hle : c.toNat ≤ 57 := hbounds.2
    simp
    omega
  | lower => simpa using .inr hbounds
  | upper => simpa using .inl hbounds

theorem carryOut_eq (h : kind? c = some k) : carryOut c = k.front := by
  unfold kind? at h
  split_ifs at h with hdigit hlower hupper <;> cases h <;> simp [carryOut, Kind.front, *]

theorem next?_of_isLast (h : kind? c = some k) (hlast : isLast c = true) :
    next? c = some (k.first, true) := by
  rw [(isLast_iff h).mp hlast]
  cases k <;> rfl

theorem next?_of_ne_last (h : ∀ l : Kind, c ≠ l.last) :
    next? c = if isAlnum c then some (advance c, false) else none := by
  have h9 : c ≠ '9' := h .digit
  have hz : c ≠ 'z' := h .lower
  have hZ : c ≠ 'Z' := h .upper
  simp [next?, h9, hz, hZ, advance]

theorem next?_of_not_isLast (h : kind? c = some k) (hlast : isLast c = false) :
    next? c = some (advance c, false) := by
  rw [next?_of_ne_last (ne_last hlast), isAlnum_eq, h]
  rfl

theorem next?_eq_none (h : kind? c = none) : next? c = none := by
  have hlast : isLast c = false := by simp [isLast, h]
  rw [next?_of_ne_last (ne_last hlast), isAlnum_eq, h]
  rfl

theorem crosses_iff (hc : kind? c = some k) (hd : kind? d = some l) :
    crosses c d = true ↔ ¬ (k = .digit ↔ l = .digit) := by
  simp only [crosses, Bool.or_eq_true, Bool.and_eq_true, isDigit_eq_true_iff hc,
    isDigit_eq_true_iff hd, isAlpha_eq_true_iff hc, isAlpha_eq_true_iff hd]
  by_cases hk : k = .digit <;> by_cases hl : l = .digit <;> simp [hk, hl]

theorem crosses_eq_false (hd : kind? d = none) : crosses c d = false := by
  have halnum : isAlnum d = false := by rw [isAlnum_eq, hd]; rfl
  simp only [isAlnum, Char.isAlphanum, Bool.or_eq_false_iff] at halnum
  simp [crosses, halnum]

/-- The number that letters and digits show, given from right to left; each kind has its own
radix. -/
def numeral : List Char → ℕ
  | [] => 0
  | c :: r =>
    match kind? c with
    | some k => c.toNat - k.first.toNat + k.radix * numeral r
    | none => numeral r

/-- Turns wheels on by one, given from right to left: a wheel that is not at its end takes the
carry. -/
def tick : List Char → List Char
  | [] => []
  | c :: r => if isLast c then reset c :: tick r else advance c :: r

theorem map_kind?_tick (h : ∀ c ∈ cs, (kind? c).isSome = true) :
    (tick cs).map kind? = cs.map kind? := by
  induction cs with
  | nil => rfl
  | cons c r ih =>
    obtain ⟨k, hk⟩ := Option.isSome_iff_exists.mp (h c List.mem_cons_self)
    unfold tick
    split_ifs with hlast
    · simp [reset_eq hk, hk, ih fun d hd => h d (List.mem_cons_of_mem _ hd)]
    · simp [kind?_advance hk (by simpa using hlast), hk]

theorem tick_of_isLast (h : ∀ c ∈ cs, isLast c = true) : tick cs = cs.map reset := by
  induction cs with
  | nil => rfl
  | cons c r ih => simp [tick, h c, ih fun d hd => h d (List.mem_cons_of_mem _ hd)]

/-- Wheels that are not all at their ends come to show the next number. -/
theorem numeral_tick (hkinds : ∀ c ∈ cs, (kind? c).isSome = true) (h : ∃ c ∈ cs, isLast c = false) :
    numeral (tick cs) = numeral cs + 1 := by
  induction cs with
  | nil => simp at h
  | cons c r ih =>
    obtain ⟨k, hk⟩ := Option.isSome_iff_exists.mp (hkinds c List.mem_cons_self)
    have hfirst := first_le_toNat hk
    unfold tick
    split_ifs with hlast
    · have hrest : ∃ d ∈ r, isLast d = false := by
        simpa [hlast] using h
      have hend := toNat_of_isLast hk hlast
      have hnumeral := ih (fun d hd => hkinds d (List.mem_cons_of_mem _ hd)) hrest
      simp only [numeral, reset_eq hk, kind?_first, hk, hnumeral]
      rw [Nat.mul_add]
      omega
    · have hadvance := kind?_advance hk (by simpa using hlast)
      simp only [numeral, hadvance, hk, toNat_advance hk]
      omega

end LateBinding.Successor
