import LateBinding.Symbol.Table

/-! # Interning from several threads

Interning is a few atomic steps: a look-up; when that finds nothing, an entry that checks again;
then the count, which is a miss only for the thread that entered the name. Threads take their steps
in any order. -/

namespace LateBinding

/-- Enters a name unless it is there by now: its symbol, whether it was entered, and the table. -/
def SymbolTable.enter (t : SymbolTable) (name : String) : Symbol × Bool × SymbolTable :=
  match t.lookup? name with
  | some s => (s, false, t)
  | none => (t.nextSymbol name, true, t.register name)

namespace Interleaving

/-- How far a thread has come with the first of its names. -/
inductive Stage
  | ready
  /-- The look-up found nothing. -/
  | absent
  /-- The symbol is known and remains to be counted. -/
  | obtained (s : Symbol) (entered : Bool)
  deriving DecidableEq, Repr

structure Thread where
  names : List String
  stage : Stage
  /-- The names done so far with their symbols, the last one first. -/
  done : List (String × Symbol)
  deriving DecidableEq, Repr

def Thread.start (names : List String) : Thread := ⟨names, .ready, []⟩

/-- One atomic step of a thread. -/
def Thread.step (t : SymbolTable) (w : Thread) : SymbolTable × Thread :=
  match w.names with
  | [] => (t, w)
  | name :: rest =>
    match w.stage with
    | .ready =>
      match t.lookup? name with
      | some s => (t, { w with stage := .obtained s false })
      | none => (t, { w with stage := .absent })
    | .absent =>
      let (s, entered, t) := t.enter name
      (t, { w with stage := .obtained s entered })
    | .obtained s entered =>
      (if entered then t.countMiss else t.countHit, ⟨rest, .ready, (name, s) :: w.done⟩)

structure State where
  table : SymbolTable
  threads : List Thread
  deriving DecidableEq, Repr

def start (t : SymbolTable) (work : List (List String)) : State := ⟨t, work.map .start⟩

/-- The next step of thread `i`; none if there is no such thread. -/
def State.step (s : State) (i : Nat) : State :=
  match s.threads[i]? with
  | none => s
  | some w =>
    let (t, w) := w.step s.table
    ⟨t, s.threads.set i w⟩

/-- Steps of the threads in the order of a schedule. -/
def State.run (s : State) (schedule : List Nat) : State := schedule.foldl State.step s

/-- Whether every thread has done all its names. -/
def State.isDone (s : State) : Bool := s.threads.all (·.names.isEmpty)

/-- Each of `threads` threads in turn, `rounds` times. -/
def inTurn (threads rounds : Nat) : List Nat := (List.replicate rounds (List.range threads)).flatten

/-- Several threads that intern the same names, one step each in turn, until all are done. -/
def internAll (t : SymbolTable) (threads : Nat) (names : List String) : State :=
  (start t (List.replicate threads names)).run (inTurn threads (3 * names.length))

/-- Whether all threads have obtained the same symbols. -/
def State.agree (s : State) : Bool :=
  match s.threads with
  | [] => true
  | w :: rest => rest.all fun v => v.done.map (·.2.id) == w.done.map (·.2.id)

end Interleaving

end LateBinding
