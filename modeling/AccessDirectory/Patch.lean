import AccessDirectory.Failure
import AccessDirectory.Json.Display

/-! Patches as submitted to a collection: a list of operations, each with a verb and a path. All verbs
of JSON Patch are read, but a collection knows only removal, and a path names an object by its
identifier after a slash. -/

namespace AccessDirectory

inductive Verb
  | add
  | remove
  | replace
  | move
  | copy
  | test
deriving DecidableEq, Repr

namespace Verb

def all : List Verb := [add, remove, replace, move, copy, test]

def name : Verb → String
  | add => "add"
  | remove => "remove"
  | replace => "replace"
  | move => "move"
  | copy => "copy"
  | test => "test"

def ofName? (s : String) : Option Verb := all.find? (·.name = s)

theorem ofName?_name (v : Verb) : ofName? v.name = some v := by cases v <;> decide

def ofJson? : Json → Option Verb
  | .str s => ofName? s
  | _ => none

end Verb

structure Patch where
  verb : Verb
  path : String
  value : Json

namespace Patch

def ofJson : Json → Except Failure Patch
  | .obj members =>
    let verb := (members.lookup "op").getD .null
    match Verb.ofJson? verb with
    | none => .error (.unknownVerb verb.plain)
    | some v =>
      match members.lookup "path" with
      | some (.str path) => .ok ⟨v, path, (members.lookup "value").getD .null⟩
      | _ => .error .patchPathMissing
  | _ => .error .patchNotAnObject

def parse : Json → Except Failure (List Patch)
  | .arr items => items.mapM ofJson
  | _ => .error .patchesNotAList

def target (p : Patch) : Except Failure String :=
  if p.verb ≠ .remove then .error (.removalOnly p.verb.name)
  else match p.path.toList with
    | '/' :: identifier => .ok (String.ofList identifier)
    | _ => .error .patchPathUnrooted

def targets (patches : List Patch) : Except Failure (List String) := patches.mapM target

end Patch

end AccessDirectory
