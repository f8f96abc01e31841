import LateBinding.Config.Document
import LateBinding.Text.Utf8

/-! # Configuration files

Files and directories below one directory, and a configuration saved there and loaded again. Saving
makes the directories on the way first and writes last, so a configuration that cannot be written
leaves the file as it was. -/

namespace LateBinding

inductive DiskEntry
  | directory
  | file (bytes : List UInt8)
  deriving DecidableEq, Repr

/-- Entries by their paths. The empty path is the directory itself. -/
structure Disk where
  entries : List (List String × DiskEntry)
  deriving DecidableEq, Repr

namespace Disk

def empty : Disk := ⟨[]⟩

def get? (d : Disk) (path : List String) : Option DiskEntry :=
  if path.isEmpty then some .directory else d.entries.lookup path

def put (d : Disk) (path : List String) (entry : DiskEntry) : Disk := ⟨(path, entry) :: d.entries⟩

/-- Makes a directory below `done` and the ones in between; `none` when a file is in the way. -/
def makeDirectories (d : Disk) (done : List String) : List String → Option Disk
  | [] => some d
  | name :: r =>
    match d.get? (done ++ [name]) with
    | some .directory => d.makeDirectories (done ++ [name]) r
    | some (.file _) => none
    | none => (d.put (done ++ [name]) .directory).makeDirectories (done ++ [name]) r

/-- The bytes of a file. -/
def read? (d : Disk) (path : List String) : Option (List UInt8) :=
  match d.get? path with
  | some (.file bytes) => some bytes
  | _ => none

/-- Writes a file whose directory is there; `none` where there is a directory already, or nothing to
write to. -/
def write? (d : Disk) (path : List String) (bytes : List UInt8) : Option Disk :=
  match d.get? path, d.get? path.dropLast with
  | some .directory, _ => none
  | _, some .directory => some (d.put path (.file bytes))
  | _, _ => none

end Disk

namespace Config

def load (d : Disk) (path : List String) : Except ConfigError Config :=
  match (d.read? path).map Utf8.text? with
  | some (.ok text) => ofText text
  | _ => .error .io

/-- Saves a configuration as it is, valid or not. The disk is the one after the attempt. -/
def save (c : Config) (d : Disk) (path : List String) : Except ConfigError Unit × Disk :=
  match d.makeDirectories [] path.dropLast with
  | none => (.error .io, d)
  | some d =>
    match Document.write? c with
    | none => (.error .notWritable, d)
    | some text =>
      match d.write? path (Utf8.encode text.toList) with
      | some d => (.ok (), d)
      | none => (.error .io, d)

end Config

end LateBinding
