import LateBinding.Conversion

/-! # Asking the operating system

The object through which programs ask for users, groups and limits. Entries are objects with a field
for each part. A missing name is a failed look-up and a missing number a failed system call. -/

namespace LateBinding.SystemMethod

open Eval Accounts

def userClass : String := "Etc::Passwd"

def groupClass : String := "Etc::Group"

def version : String := "1.3.0"

/-- The names of the limits with the numbers that the system knows them by. -/
def limitNames : List (String × Nat) :=
  [("SC_ARG_MAX", 0), ("SC_CHILD_MAX", 1), ("SC_HOST_NAME_MAX", 180), ("SC_LOGIN_NAME_MAX", 71),
   ("SC_NGROUPS_MAX", 3), ("SC_CLK_TCK", 2), ("SC_OPEN_MAX", 4), ("SC_PAGESIZE", 30),
   ("SC_PAGE_SIZE", 30), ("SC_RE_DUP_MAX", 44), ("SC_STREAM_MAX", 5), ("SC_SYMLOOP_MAX", 173),
   ("SC_TTY_NAME_MAX", 72), ("SC_TZNAME_MAX", 6), ("SC_VERSION", 29)]

/-- Fields under interned names. -/
def internFields : List (String × Value) → Eval (List (Symbol × Value))
  | [] => return []
  | (name, v) :: rest => do
    let s ← intern name
    return (s, v) :: (← internFields rest)

def newObject (cls : Symbol) (fields : List (Symbol × Value)) : Eval Value :=
  return .object (← onHeap (·.newObject cls fields))

/-- The object itself, new each time. -/
def module : Eval Value := do
  let constants := [("VERSION", ← newString version), ("CS_PATH", count 0)]
  let fields ← internFields (constants ++ limitNames.map fun (name, n) => (name, count n))
  newObject (← intern Builtin.systemClass) fields

def userValue (u : User) : Eval Value := do
  let fields :=
    [("name", ← newString u.name), ("passwd", ← newString u.password), ("uid", count u.id),
     ("gid", count u.groupId), ("gecos", ← newString u.comment), ("dir", ← newString u.home),
     ("shell", ← newString u.shell)]
  let cls ← intern userClass
  newObject cls (← internFields fields)

def newStrings : List String → Eval (List Value)
  | [] => return []
  | s :: rest => do
    let v ← newString s
    return v :: (← newStrings rest)

def groupValue (g : Group) : Eval Value := do
  let members ← newArray (← newStrings g.members)
  let fields :=
    [("name", ← newString g.name), ("passwd", ← newString g.password), ("gid", count g.id),
     ("mem", members)]
  let cls ← intern groupClass
  newObject cls (← internFields fields)

def arity : SystemMethod → Arity
  | login | nextUser | rewindUsers | closeUsers | nextGroup | rewindGroups | closeGroups =>
    .exactly 0
  | userNamed | groupNamed | limit => .exactly 1
  | userWithId | groupWithId => .between 0 1

/-- The outcome of a look-up; a failed call is a failure. -/
def found {α : Type} (call : Nat → Reply α) : Eval (Option α) :=
  match Id.run (lookup call) with
  | .ok entry => pure entry
  | .error code => fail (.systemCall code)

/-- A name, which is a string without a NUL. -/
def nameOf (v : Value) : Eval String :=
  match v with
  | .string s => if s.chars.contains '\x00' then fail .nulInName else pure s.text
  | other => wrongArgument other "String"

/-- A number of 32 bits, or the current one. -/
def idOf (send : Sender) (current : Nat) : Option Value → Eval Nat
  | none => pure current
  | some v => do
    let id := (← toInt send v).toInt
    if 0 ≤ id ∧ id < 0x100000000 then return id.toNat else fail (.idOutOfRange id)

def limitOf (system : OperatingSystem) (name : Int) : Eval Value :=
  if -0x80000000 ≤ name ∧ name < 0x80000000 then
    match system.limit name with
    | .value n => pure (.integer n)
    | .indeterminate => pure .nil
    | .failure code => fail (.systemCall code)
  else fail (.limitOutOfRange name)

/-- The entry at the cursor, which moves on. -/
def nextEntry {α : Type} (entries : List α) (cursor : Machine → Nat)
    (move : Machine → Nat → Machine) (value : α → Eval Value) : Eval Value := do
  let i := cursor (← get)
  match entries[i]? with
  | some entry =>
    modify fun m => move m (i + 1)
    value entry
  | none => return .nil

def moveUsers (m : Machine) (i : Nat) : Machine := { m with userCursor := i }

def moveGroups (m : Machine) (i : Nat) : Machine := { m with groupCursor := i }

/-- Puts a cursor back to the front. -/
def rewind (move : Machine → Nat → Machine) : Eval Value := do
  modify fun m => move m 0
  return .nil

def run (system : OperatingSystem) (send : Sender) (m : SystemMethod) (args : Args) :
    Eval Value := do
  check args m.arity
  match m with
  | login => optionalString system.login
  | userNamed =>
    let name ← nameOf (← arg args 0)
    match ← found (system.userNamed name) with
    | some u => userValue u
    | none => fail (.noUserNamed name)
  | groupNamed =>
    let name ← nameOf (← arg args 0)
    match ← found (system.groupNamed name) with
    | some g => groupValue g
    | none => fail (.noGroupNamed name)
  | userWithId =>
    let id ← idOf send system.currentUser (args.get? 0)
    match ← found (system.userWithId id) with
    | some u => userValue u
    | none => fail (.noUserWithId id)
  | groupWithId =>
    let id ← idOf send system.currentGroup (args.get? 0)
    match ← found (system.groupWithId id) with
    | some g => groupValue g
    | none => fail (.noGroupWithId id)
  | limit => limitOf system (← toInt send (← arg args 0)).toInt
  | nextUser => nextEntry system.users (·.userCursor) moveUsers userValue
  | nextGroup => nextEntry system.groups (·.groupCursor) moveGroups groupValue
  | rewindUsers => rewind moveUsers
  | closeUsers => rewind moveUsers
  | rewindGroups => rewind moveGroups
  | closeGroups => rewind moveGroups

end LateBinding.SystemMethod
