import LateBinding.Pattern.Syntax

/-! # Pattern programs

A pattern as a list of instructions with relative jumps. Where an instruction has two continuations,
the first has priority. -/

namespace LateBinding

inductive Instr
  | one (set : Charset)
  | look (l : Look)
  | split (first second : Int)
  | jump (offset : Int)
  | save (slot : Nat)
  | accept
  deriving DecidableEq, Repr

namespace Pattern

def choose (greedy : Bool) (enter leave : Int) : Instr :=
  if greedy then .split enter leave else .split leave enter

/-- The code once or not at all. -/
def optionally (greedy : Bool) (code : List Instr) : List Instr :=
  choose greedy 1 (code.length + 1) :: code

/-- The code once or more. -/
def repeatedly (greedy : Bool) (code : List Instr) : List Instr :=
  code ++ [choose greedy (-code.length) 1]

/-- The code at most `n` times. -/
def upTo (greedy : Bool) (code : List Instr) : Nat → List Instr
  | 0 => []
  | n + 1 => optionally greedy (code ++ upTo greedy code n)

def copies (n : Nat) (code : List Instr) : List Instr := (List.replicate n code).flatten

/-- Unbounded repetition loops behind its last mandatory copy. Without one, the loop is entered at
will, so that an empty round still sets its groups. -/
def repeatCode (greedy : Bool) (code : List Instr) : Nat → Option Nat → List Instr
  | min, some max => copies min code ++ upTo greedy code (max - min)
  | 0, none => optionally greedy (repeatedly greedy code)
  | n + 1, none => copies n code ++ repeatedly greedy code

def code : Pattern → List Instr
  | empty => []
  | one set => [.one set]
  | look l => [.look l]
  | seq a b => a.code ++ b.code
  | alt a b =>
    let x := a.code
    let y := b.code
    .split 1 (x.length + 2) :: (x ++ .jump (y.length + 1) :: y)
  | rep a min max greedy => repeatCode greedy a.code min max
  | group i _ a => .save (2 * i) :: (a.code ++ [.save (2 * i + 1)])

def program (p : Pattern) : Array Instr :=
  (.save 0 :: (p.code ++ [.save 1, .accept])).toArray

end Pattern

end LateBinding
