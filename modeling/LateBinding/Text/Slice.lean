/-! # Parts of a text

Parts are addressed by characters or by UTF-8 bytes. An offset in bytes is good only where a
character starts, or at the end. -/

namespace LateBinding.Slice

/-- Up to `count` characters from the one at `start` on. -/
def chars (start count : Nat) (cs : List Char) : List Char :=
  (cs.drop start).take count

def byteSize : List Char → Nat
  | [] => 0
  | c :: cs => c.utf8Size + byteSize cs

@[simp] theorem byteSize_nil : byteSize [] = 0 := rfl

@[simp] theorem byteSize_cons (c : Char) (cs : List Char) :
    byteSize (c :: cs) = c.utf8Size + byteSize cs := rfl

/-- Splits off the first `n` bytes; `none` past the end or inside a character. -/
def splitBytes? : Nat → List Char → Option (List Char × List Char)
  | 0, cs => some ([], cs)
  | _ + 1, [] => none
  | n + 1, c :: r =>
    if c.utf8Size ≤ n + 1 then
      (splitBytes? (n + 1 - c.utf8Size) r).map fun (front, back) => (c :: front, back)
    else none

/-- A text splits at a byte exactly when it is put together from two texts that meet there. -/
theorem splitBytes?_eq_some_iff {n : Nat} {cs front back : List Char} :
    splitBytes? n cs = some (front, back) ↔ front ++ back = cs ∧ byteSize front = n := by
  induction cs generalizing n front back with
  | nil =>
    cases n with
    | zero => cases front <;> cases back <;> simp [splitBytes?]
    | succ n =>
      simp only [splitBytes?, List.append_eq_nil_iff]
      constructor
      · intro h; cases h
      · rintro ⟨⟨rfl, -⟩, h⟩; simp at h
  | cons c r ih =>
    have pos := c.utf8Size_pos
    cases n with
    | zero =>
      cases front with
      | nil => simp [splitBytes?, eq_comm]
      | cons d ds =>
        have := d.utf8Size_pos
        simp only [splitBytes?, byteSize_cons]
        constructor
        · intro h; cases h
        · rintro ⟨-, h⟩; omega
    | succ n =>
      simp only [splitBytes?]
      split
      next fits =>
        cases front with
        | nil => simp
        | cons d ds =>
          simp only [Option.map_eq_some_iff, Prod.mk.injEq, List.cons.injEq, Prod.exists,
            List.cons_append, byteSize_cons]
          constructor
          · rintro ⟨f, b, h, ⟨rfl, rfl⟩, rfl⟩
            have := ih.1 h
            exact ⟨⟨rfl, this.1⟩, by omega⟩
          · rintro ⟨⟨rfl, h⟩, size⟩
            exact ⟨ds, back, ih.2 ⟨h, by omega⟩, ⟨rfl, rfl⟩, rfl⟩
      next short =>
        constructor
        · intro h; cases h
        · rintro ⟨h, size⟩
          cases front with
          | nil => simp at size
          | cons d ds =>
            simp only [List.cons_append, List.cons.injEq] at h
            obtain ⟨rfl, -⟩ := h
            simp only [byteSize_cons] at size
            omega

/-- The characters before byte `stop`. -/
def before? (stop : Nat) (cs : List Char) : Option (List Char) :=
  (splitBytes? stop cs).map (·.1)

/-- The characters from byte `start` on. -/
def after? (start : Nat) (cs : List Char) : Option (List Char) :=
  (splitBytes? start cs).map (·.2)

/-- The characters from byte `start` to byte `stop`. -/
def between? (start stop : Nat) (cs : List Char) : Option (List Char) :=
  if start ≤ stop then (after? start cs).bind (before? (stop - start)) else none

/-- The bytes where the characters of a text start, when it starts at byte `first`, and the one
where it ends. -/
def offsets (first : Nat) : List Char → List Nat
  | [] => [first]
  | c :: cs => first :: offsets (first + c.utf8Size) cs

/-- The item after `n` others and the items that follow it. Where there is none, nothing is left. -/
def next? : Nat → List Nat → Option Nat × List Nat
  | _, [] => (none, [])
  | 0, x :: xs => (some x, xs)
  | n + 1, _ :: xs => next? n xs

/-- Cuts out up to `count` characters from the one at `start` on. Where they end is looked for among
the offsets that follow the one where they start, and is the end of the text if there are too few of
them. -/
def cut? (start count : Nat) (cs : List Char) : Option (List Char) :=
  let (first?, following) := next? start (offsets 0 cs)
  let first := first?.getD (byteSize cs)
  let stop := if count = 0 then first else (next? (count - 1) following).1.getD (byteSize cs)
  between? first stop cs

theorem next?_eq (n : Nat) (xs : List Nat) : next? n xs = (xs[n]?, xs.drop (n + 1)) := by
  induction xs generalizing n with
  | nil => simp [next?]
  | cons x xs ih =>
    cases n with
    | zero => rfl
    | succ n => simp [next?, ih]

theorem getElem?_offsets (first n : Nat) (cs : List Char) :
    (offsets first cs)[n]? = if n ≤ cs.length then some (first + byteSize (cs.take n))
    else none := by
  induction cs generalizing first n with
  | nil => cases n <;> simp [offsets]
  | cons c cs ih =>
    cases n with
    | zero => simp [offsets]
    | succ n => simp [offsets, ih, Nat.add_assoc]

/-- The default stands for the end of the text, where all characters have been taken. -/
theorem getD_offsets (n : Nat) (cs : List Char) :
    (offsets 0 cs)[n]?.getD (byteSize cs) = byteSize (cs.take n) := by
  rw [getElem?_offsets]
  split
  · rw [Option.getD_some, Nat.zero_add]
  · next h => rw [Option.getD_none, List.take_of_length_le (Nat.le_of_not_le h)]

theorem byteSize_append (cs ds : List Char) : byteSize (cs ++ ds) = byteSize cs + byteSize ds := by
  induction cs with
  | nil => simp
  | cons c cs ih => simp [ih, Nat.add_assoc]

theorem splitBytes?_append (front back : List Char) :
    splitBytes? (byteSize front) (front ++ back) = some (front, back) :=
  splitBytes?_eq_some_iff.2 ⟨rfl, rfl⟩

theorem between?_append (front middle back : List Char) :
    between? (byteSize front) (byteSize (front ++ middle)) (front ++ (middle ++ back)) =
      some middle := by
  rw [between?, if_pos (by rw [byteSize_append]; omega), after?, splitBytes?_append,
    Option.map_some, Option.bind_some, before?, byteSize_append, Nat.add_sub_cancel_left,
    splitBytes?_append, Option.map_some]

/-- The cut falls between characters, and no character is lost or split. -/
theorem cut?_eq (start count : Nat) (cs : List Char) :
    cut? start count cs = some (chars start count cs) := by
  have hstop : (if count = 0 then byteSize (cs.take start)
      else ((offsets 0 cs).drop (start + 1))[count - 1]?.getD (byteSize cs)) =
        byteSize (cs.take start ++ (cs.drop start).take count) := by
    rw [← List.take_add]
    split
    · next h => rw [h, Nat.add_zero]
    · next h =>
      rw [List.getElem?_drop, getD_offsets, show start + 1 + (count - 1) = start + count by omega]
  have hcs : cs.take start ++ ((cs.drop start).take count ++ (cs.drop start).drop count) = cs := by
    rw [List.take_append_drop, List.take_append_drop]
  simp only [cut?, next?_eq, getD_offsets, hstop]
  rw [chars, ← between?_append (cs.take start) ((cs.drop start).take count)
    ((cs.drop start).drop count), hcs]

example : cut? 1 2 ['é', 't', 'é', '!'] = some ['t', 'é'] := by decide

/-- Whether `needle` occurs in a text. -/
def occursIn (needle : List Char) : List Char → Bool
  | [] => needle.isEmpty
  | c :: r => needle.isPrefixOf (c :: r) || occursIn needle r

end LateBinding.Slice
