import AccessDirectory.Text.Parts

/-! Paths of files as names between slashes. Empty names and names that mean the same place are
dropped; a path is relative, or starts with one slash, or with exactly two. -/

namespace AccessDirectory

structure FilePath where
  /-- The number of slashes in front: none, one or two. -/
  slashes : Nat
  names : List String
deriving DecidableEq, Repr

namespace FilePath

def isName (part : String) : Bool := part ≠ "" && part ≠ "."

def ofText (s : String) : FilePath :=
  let lead := (s.toList.takeWhile (· = '/')).length
  { slashes := if lead = 2 then 2 else min lead 1
    names := ((Text.parts '/' s.toList).map String.ofList).filter isName }

def child (p : FilePath) (name : String) : FilePath := { p with names := p.names ++ [name] }

def within (directory p : FilePath) : FilePath :=
  if p.slashes = 0 then { directory with names := directory.names ++ p.names } else p

def text (p : FilePath) : String :=
  if p.slashes = 0 && p.names.isEmpty then "."
  else String.ofList (List.replicate p.slashes '/') ++ "/".intercalate p.names

def parentName : String := ".."

def nameLimit : Nat := 255

def textLimit : Nat := 4095

def isTooLong (p : FilePath) : Bool :=
  textLimit < p.text.utf8ByteSize || p.names.any (nameLimit < ·.utf8ByteSize)

end FilePath

end AccessDirectory
