import LateBinding.Send

/-! # Sessions

One machine with several environments. They share everything but the register of the last match, of
which each has its own. -/

namespace LateBinding

structure Session where
  machine : Machine
  registers : List Value

namespace Session

def ofMachine (m : Machine) (environments : Nat) : Session := ⟨m, List.replicate environments .nil⟩

def register (s : Session) (env : Nat) : Value := s.registers[env]?.getD .nil

/-- Runs a computation in an environment. -/
def run {α : Type} (s : Session) (env : Nat) (x : Eval α) : Except Fault α × Session :=
  let close (m : Machine) : Session := ⟨m, s.registers.set env m.lastMatch⟩
  match x { s.machine with lastMatch := s.register env } with
  | .ok a m => (.ok a, close m)
  | .error e m => (.error e, close m)

end Session

end LateBinding
