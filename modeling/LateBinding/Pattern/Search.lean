import LateBinding.Pattern.Program

/-! # Leftmost-first search

A backtracking search in order of priority. A pair of an instruction and a position that has been
tried once cannot succeed later, so no pair is tried twice and the search ends after as many steps
as there are pairs, twice over. -/

namespace LateBinding

namespace Look

def isWordAt (text : Array Char) (i : Nat) : Bool := text[i]?.any Unicode.isWord

def wordBefore (text : Array Char) (i : Nat) : Bool := 0 < i && isWordAt text (i - 1)

/-- Whether the condition holds in front of the character at `i`. -/
def holds (text : Array Char) (i : Nat) : Look → Bool
  | textStart => i == 0
  | textEnd => i == text.size
  | lineStart => i == 0 || text[i - 1]? == some '\n'
  | lineEnd => i == text.size || text[i]? == some '\n'
  | wordBoundary => wordBefore text i != isWordAt text i
  | notWordBoundary => wordBefore text i == isWordAt text i
  | wordStart => !wordBefore text i && isWordAt text i
  | wordEnd => wordBefore text i && !isWordAt text i
  | wordStartHalf => !wordBefore text i
  | wordEndHalf => !isWordAt text i

end Look

namespace Search

/-- Positions saved so far, by slot. -/
abbrev Saves := List (Nat × Nat)

/-- An instruction to go on from, at a position, with what has been saved on the way. -/
structure Thread where
  pc : Nat
  pos : Nat
  saves : Saves

/-- The threads that a thread leaves, best first; `none` when it has reached the end of the
program. -/
def next? (program : Array Instr) (text : Array Char) (t : Thread) : Option (List Thread) :=
  let go (offset : Int) : Thread := { t with pc := (t.pc + offset).toNat }
  match program[t.pc]? with
  | some .accept => none
  | some (.one set) =>
    if text[t.pos]?.any set.has then some [{ go 1 with pos := t.pos + 1 }] else some []
  | some (.look l) => if l.holds text t.pos then some [go 1] else some []
  | some (.split first second) => some [go first, go second]
  | some (.jump offset) => some [go offset]
  | some (.save slot) => some [{ go 1 with saves := (slot, t.pos) :: t.saves }]
  | none => some []

/-- Runs the threads in order until one reaches the end. `tried` has one mark for each instruction
and position. -/
def explore (program : Array Instr) (text : Array Char) :
    Nat → List Thread → Array Bool → Option Saves × Array Bool
  | 0, _, tried => (none, tried)
  | _ + 1, [], tried => (none, tried)
  | n + 1, t :: rest, tried =>
    let key := t.pc * (text.size + 1) + t.pos
    if tried[key]?.getD true then explore program text n rest tried
    else
      match next? program text t with
      | none => (some t.saves, tried)
      | some ts => explore program text n (ts ++ rest) (tried.setIfInBounds key true)

/-- Tries the start positions from `start` on, `count` of them. -/
def scan (program : Array Instr) (text : Array Char) :
    Nat → Nat → Array Bool → Option Saves
  | 0, _, _ => none
  | count + 1, start, tried =>
    match explore program text (2 * tried.size + 2) [⟨0, start, []⟩] tried with
    | (some saves, _) => some saves
    | (none, tried) => scan program text count (start + 1) tried

end Search

namespace Pattern

/-- The spans of the groups in the leftmost match that starts at character `start` or later, in
characters; a group that took no part has none. -/
def search (p : Pattern) (text : List Char) (start : Nat) : Option (List (Option (Nat × Nat))) :=
  let program := p.program
  let chars := text.toArray
  let tried := Array.replicate (program.size * (chars.size + 1)) false
  (Search.scan program chars (chars.size + 1 - start) start tried).map fun saves =>
    (List.range p.groupNames.length).map fun i =>
      match saves.lookup (2 * i), saves.lookup (2 * i + 1) with
      | some a, some b => some (a, b)
      | _, _ => none

end Pattern

end LateBinding
