import AccessDirectory.Http.Message
import AccessDirectory.Http.Pattern

/-! Which endpoint answers a path. The endpoints of the site have fixed paths; collections and their
objects lie under a base path. An endpoint has a handler for each of several sets of methods. Of the
endpoints that a path leads to, the first that knows the method answers. -/

namespace AccessDirectory.Http

inductive Endpoint
  | health
  | ready
  /-- A file of the site; there are none. -/
  | file
  | collection (name : String)
  | object (collection identifier : String)
deriving DecidableEq, Repr

namespace Endpoint

def methodSets : Endpoint → List (List Method)
  | collection _ => [[.get, .head, .options], [.patch, .options], [.post, .options]]
  | object _ _ => [[.get, .head, .options], [.put, .options], [.delete, .options]]
  | _ => [[.get, .head, .options]]

def allows (e : Endpoint) (m : Method) : Bool := e.methodSets.any (·.contains m)

def isGuarded : Endpoint → Bool
  | collection _ | object _ _ => true
  | _ => false

end Endpoint

structure Destination where
  endpoint : Endpoint
  /-- A variable of the base path; no handler of the endpoint has a name for it. -/
  stray : Option String := none
  /-- Whether the variables of the path have admissible values. -/
  verdict : Verdict := .admitted
deriving DecidableEq, Repr

structure Found where
  destinations : List Destination := []
  /-- Whether a part of the base path, with which nothing can be compared, ends the search. -/
  isBroken : Bool := false

def Found.append (a b : Found) : Found :=
  if a.isBroken then a else { b with destinations := a.destinations ++ b.destinations }

def mergeSlashes : List Char → List Char
  | [] => []
  | c :: rest =>
    match c, mergeSlashes rest with
    | '/', '/' :: merged => '/' :: merged
    | c, merged => c :: merged

def baseText (base : String) : List Char :=
  mergeSlashes (base.toList.reverse.dropWhile (· = '/')).reverse

def collectionVariable : Variable := { name := "collection" }
def identifierVariable : Variable := { name := "identifier" }

def collectionPattern (base : Pattern) : Pattern := base ++ [[.gap collectionVariable]]

def objectPattern (base : Pattern) : Pattern :=
  base ++ [[.gap collectionVariable], [.gap identifierVariable]]

def basePattern (base : String) : Except PatternFault Pattern := do
  let pattern ← Pattern.read (baseText base)
  Pattern.checkNames (objectPattern pattern).names
  return pattern

def judgeAll (bound : List (Variable × String)) : Verdict :=
  ((bound.map fun (v, value) => v.kind.judge value).find? (· ≠ .admitted)).getD .admitted

def destinationOf (base : Pattern) (endpoint : Endpoint) (bound : List (Variable × String)) :
    Destination where
  endpoint
  stray := base.names.head?
  verdict := judgeAll bound

def valueOf (v : Variable) (bound : List (Variable × String)) : String := (bound.lookup v).getD ""

def found (base pattern : Pattern) (endpoint : List (Variable × String) → Endpoint)
    (path : List Char) : Found :=
  match pattern.trial (Text.parts '/' path) with
  | .fits values =>
    let bound := pattern.gaps.zip values
    { destinations := [destinationOf base (endpoint bound) bound] }
  | .misses => {}
  | .breaks => { isBroken := true }

/-- Where a path leads below a base. If it is both an object and a collection, the object comes first. -/
def searchDirectories (base : Pattern) (path : List Char) : Found :=
  let objects := found base (objectPattern base)
    (fun bound => .object (valueOf collectionVariable bound) (valueOf identifierVariable bound)) path
  let collections := found base (collectionPattern base)
    (fun bound => .collection (valueOf collectionVariable bound)) path
  objects.append collections

def isFilePath (path : List Char) : Bool :=
  match ("/static/".toList.isPrefixOf path : Bool), path.drop 8 with
  | true, c :: rest => c ≠ '/' && !rest.contains '\n'
  | _, _ => false

def searchSite (path : List Char) : Found where
  destinations :=
    if path = "/health".toList then [{ endpoint := .health }]
    else if path = "/ready".toList then [{ endpoint := .ready }]
    else if isFilePath path then [{ endpoint := .file }]
    else []

def startsFixed : Pattern → Bool
  | _ :: first :: _ => first.isFixed
  | _ => false

def search (base : Pattern) (path : List Char) : Found :=
  if startsFixed base then (searchDirectories base path).append (searchSite path)
  else (searchSite path).append (searchDirectories base path)

inductive Routed
  | destination (d : Destination)
  /-- The path would lead somewhere if slashes in a row were one. -/
  | redirect
  | wrongMethod
  /-- All that the path leads to speaks another protocol than the request asks for. -/
  | wrongProtocol
  | unknown
  /-- The path cannot be compared with the base path. -/
  | broken
deriving DecidableEq, Repr

def refuseUpgrade (found : List Destination) (m : Method) : Routed :=
  let sets := found.flatMap (·.endpoint.methodSets)
  if sets.isEmpty then .unknown
  else if sets.all (·.contains m) then .wrongProtocol
  else .wrongMethod

def refuseValue (earlier : List Destination) (d : Destination) (m : Method) : Routed :=
  if earlier.isEmpty && (d.endpoint.methodSets.take 1).all (·.contains m) then .unknown
  else .wrongMethod

def route (base : Pattern) (m : Method) (upgrade : Bool) (path : String) : Routed :=
  let found := search base path.toList
  let merged := search base (mergeSlashes path.toList)
  if upgrade then
    if found.isBroken || merged.isBroken then .broken
    else refuseUpgrade (found.destinations ++ merged.destinations) m
  else match found.destinations.find? (·.endpoint.allows m) with
    | some d =>
      match d.verdict with
      | .admitted => .destination d
      | .refused => refuseValue (found.destinations.takeWhile fun d => !d.endpoint.allows m) d m
      | .failed => .broken
    | none =>
      if found.isBroken then .broken
      else if merged.destinations.any (·.endpoint.allows m) then .redirect
      else if merged.isBroken then .broken
      else if found.destinations.isEmpty && merged.destinations.isEmpty then .unknown
      else .wrongMethod

end AccessDirectory.Http
