import AccessDirectory.Config.FilePath

/-! Trees of files and directories. A path is followed name by name: only directories lead on, and a
name or path of too many bytes cannot be followed at all. -/

namespace AccessDirectory

inductive FileState (α : Type)
  | missing
  | directory
  | file (contents : α)
deriving DecidableEq, Repr

inductive PathFault
  | tooLong
deriving DecidableEq, Repr

/-- Files and directories by the names that lead to them; without contents stands a directory. All
directories on the way to an entry exist. -/
structure FileTree (α : Type) where
  entries : List (List String × Option α)

namespace FileTree

variable {α : Type}

def state (t : FileTree α) (place : List String) : FileState α :=
  match t.entries.lookup place with
  | some (some contents) => .file contents
  | some none => .directory
  | none => if t.entries.any (place.isPrefixOf ·.1) then .directory else .missing

def follow (t : FileTree α) : List String → List String → Except PathFault (FileState α)
  | place, [] => .ok (t.state place)
  | place, name :: rest =>
    match t.state place with
    | .directory =>
      if name = FilePath.parentName then t.follow place.dropLast rest
      else if FilePath.nameLimit < name.utf8ByteSize then .error .tooLong
      else t.follow (place ++ [name]) rest
    | _ => .ok .missing

def find (t : FileTree α) (place : List String) (p : FilePath) : Except PathFault (FileState α) :=
  if p.names.any (·.toList.contains (Char.ofNat 0)) then .ok .missing
  else if FilePath.textLimit < p.text.utf8ByteSize then .error .tooLong
  else t.follow (if p.slashes = 0 then place else []) p.names

end FileTree

end AccessDirectory
