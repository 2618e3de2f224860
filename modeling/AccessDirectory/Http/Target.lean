import AccessDirectory.Http.Reference
import AccessDirectory.Text.Parts
import AccessDirectory.Text.Percent

/-! The target of a request: a path, and after a question mark the names and values of a query. A target
may name a scheme and a host. What then is left as a path is read as a reference again, and so is what
that leaves; the last of the three keeps its scheme and host in the path. -/

namespace AccessDirectory.Http

def ownHost : String := "localhost"

structure Target where
  /-- In lower case; empty where the target names none. -/
  scheme : String
  host : String := ownHost
  path : String
  /-- Whether the target has a path of its own. -/
  hasPath : Bool := true
  query : List (String × String)
deriving DecidableEq, Repr

namespace Target
open Text

def decodeTerm (cs : List Char) : String :=
  Percent.decode (String.ofList (cs.map fun c => if c = '+' then ' ' else c))

def readPair (cs : List Char) : String × String :=
  (decodeTerm (cs.takeWhile (· ≠ '=')), decodeTerm ((cs.dropWhile (· ≠ '=')).drop 1))

def readQuery (cs : List Char) : List (String × String) :=
  ((parts '&' cs).filter (!·.isEmpty)).map readPair

def rooted (path : String) : String := String.ofList ('/' :: path.toList.dropWhile (· = '/'))

def inner (r : Reference) : List Char :=
  if r.query.isEmpty then r.path else r.path ++ '?' :: r.query

def read (s : String) : Except Reference.Fault Target := do
  let outer ← Reference.read s.toList
  let middle ← Reference.read (inner outer)
  let last ← Reference.read middle.path
  let inside ← Reference.normalHost last.host
  let host ← Reference.normalHost outer.host
  Reference.checkHost (Reference.splitUser host).2
  let path := Percent.decode (String.ofList (Reference.write { last with host := inside }))
  return {
    scheme := String.ofList outer.scheme
    host := if outer.host.isEmpty then ownHost else String.ofList host
    path := rooted path
    hasPath := !path.isEmpty
    query := readQuery middle.query }

def values (t : Target) (name : String) : List String :=
  (t.query.filter (·.1 = name)).map (·.2)

end Target

end AccessDirectory.Http
