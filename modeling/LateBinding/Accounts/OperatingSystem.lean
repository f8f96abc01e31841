import LateBinding.Accounts.Lookup

/-! # The operating system

The user and group databases, the login name and the configurable limits, as far as programs ask for
them. -/

namespace LateBinding

structure User where
  name : String
  password : String
  id : Nat
  groupId : Nat
  comment : String
  home : String
  shell : String
  deriving DecidableEq, Repr

structure Group where
  name : String
  password : String
  id : Nat
  members : List String
  deriving DecidableEq, Repr

/-- A limit may be a number, without bound, or unknown under its name. -/
inductive Limit
  | value (n : Int64)
  | indeterminate
  | failure (code : Int)
  deriving DecidableEq

/-- The answers of the system. Look-ups are given the size of the buffer. -/
structure OperatingSystem where
  userNamed : String → Nat → Accounts.Reply User
  userWithId : Nat → Nat → Accounts.Reply User
  groupNamed : String → Nat → Accounts.Reply Group
  groupWithId : Nat → Nat → Accounts.Reply Group
  /-- All users, in the order of enumeration. -/
  users : List User
  /-- All groups, in the order of enumeration. -/
  groups : List Group
  currentUser : Nat
  currentGroup : Nat
  login : Option String
  limit : Int → Limit

namespace Accounts

def User.room (u : User) : Nat :=
  [u.name, u.password, u.comment, u.home, u.shell].foldl (fun n s => n + s.utf8ByteSize + 1) 0

def Group.room (g : Group) : Nat :=
  (g.name :: g.password :: g.members).foldl (fun n s => n + s.utf8ByteSize + 9) 8

/-- The reply about an entry that takes so much room. -/
def replyWith {α : Type} (room : α → Nat) (found : Option α) (size : Nat) : Reply α :=
  match found with
  | none => ⟨0, none⟩
  | some entry => if room entry ≤ size then ⟨0, some entry⟩ else ⟨tooSmall, none⟩

end Accounts

namespace OperatingSystem

open Accounts

/-- A system whose databases are two lists, run by the first user. -/
def ofLists (users : List User) (groups : List Group) (limits : List (Int × Limit)) :
    OperatingSystem where
  userNamed name := replyWith User.room (users.find? (·.name == name))
  userWithId id := replyWith User.room (users.find? (·.id == id))
  groupNamed name := replyWith Group.room (groups.find? (·.name == name))
  groupWithId id := replyWith Group.room (groups.find? (·.id == id))
  users := users
  groups := groups
  currentUser := (users.head?.map User.id).getD 0
  currentGroup := (users.head?.map User.groupId).getD 0
  login := users.head?.map User.name
  limit name := (limits.lookup name).getD (.failure 22)

end OperatingSystem

end LateBinding
