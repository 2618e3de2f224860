import AccessDirectory.Failure
import AccessDirectory.Json.Display

/-! Permissions: those on single objects, kept by identifier, and those on the system as a whole. An
identifier may stand in a permission set with no permission at all; it then grants nothing. -/

namespace AccessDirectory

inductive ObjectPermission
  | read
  | update
  | delete
  | administer
deriving DecidableEq, Repr

inductive SystemPermission
  | createConnection
  | createUser
  | createUserGroup
  | audit
  | administer
deriving DecidableEq, Repr

namespace ObjectPermission

def all : List ObjectPermission := [read, update, delete, administer]

def name : ObjectPermission → String
  | read => "READ"
  | update => "UPDATE"
  | delete => "DELETE"
  | administer => "ADMINISTER"

/-- `WRITE` is another name for `UPDATE`. -/
def ofName? (s : String) : Option ObjectPermission :=
  if s = "WRITE" then some update else all.find? (·.name = s)

theorem ofName?_name (p : ObjectPermission) : ofName? p.name = some p := by cases p <;> decide

def ofJson (value : Json) : Except Failure ObjectPermission :=
  let found := match value with
    | .str s => ofName? s
    | _ => none
  match found with
  | some p => .ok p
  | none => .error (.unknownPermission value.display "ObjectPermissionType")

end ObjectPermission

namespace SystemPermission

def all : List SystemPermission := [createConnection, createUser, createUserGroup, audit, administer]

def name : SystemPermission → String
  | createConnection => "CREATE_CONNECTION"
  | createUser => "CREATE_USER"
  | createUserGroup => "CREATE_USER_GROUP"
  | audit => "AUDIT"
  | administer => "ADMINISTER"

def ofName? (s : String) : Option SystemPermission := all.find? (·.name = s)

def ofJson (value : Json) : Except Failure SystemPermission :=
  let found := match value with
    | .str s => ofName? s
    | _ => none
  match found with
  | some p => .ok p
  | none => .error (.unknownPermission value.display "SystemPermissionType")

end SystemPermission

structure ObjectPermissions where
  grants : Table (List ObjectPermission)
deriving DecidableEq

namespace ObjectPermissions

def empty : ObjectPermissions := ⟨∅⟩

def on (s : ObjectPermissions) (identifier : String) : List ObjectPermission :=
  (s.grants.get? identifier).getD []

def has (s : ObjectPermissions) (p : ObjectPermission) (identifier : String) : Bool :=
  (s.on identifier).contains p

/-- Makes room for an identifier without granting anything on it. -/
def mention (s : ObjectPermissions) (identifier : String) : ObjectPermissions :=
  ⟨s.grants.put identifier (s.on identifier)⟩

def add (s : ObjectPermissions) (p : ObjectPermission) (identifier : String) : ObjectPermissions :=
  ⟨s.grants.put identifier ((s.on identifier).insert p)⟩

/-- Grants a permission given by name. An unknown name leaves the identifier mentioned. -/
def addNamed (s : ObjectPermissions) (name : Json) (identifier : String) :
    Except Failure Unit × ObjectPermissions :=
  match ObjectPermission.ofJson name with
  | .ok p => (.ok (), s.add p identifier)
  | .error f => (.error f, s.mention identifier)

def hasNamed (s : ObjectPermissions) (name : Json) (identifier : String) : Except Failure Bool :=
  (ObjectPermission.ofJson name).map (s.has · identifier)

def accessible (s : ObjectPermissions) (ps : List ObjectPermission) (identifiers : List String) :
    List String :=
  (identifiers.filter fun i => ps.any (s.has · i)).eraseDups

theorem mem_accessible (s : ObjectPermissions) (ps : List ObjectPermission)
    (identifiers : List String) (i : String) :
    i ∈ s.accessible ps identifiers ↔ i ∈ identifiers ∧ ∃ p ∈ ps, s.has p i := by
  simp [accessible]

def accessibleNamed (s : ObjectPermissions) (names : List Json) (identifiers : List String) :
    Except Failure (List String) :=
  (names.mapM ObjectPermission.ofJson).map (s.accessible · identifiers)

def pairs (s : ObjectPermissions) : List (ObjectPermission × String) :=
  s.grants.entries.flatMap fun e => e.2.map (·, e.1)

def addAll (s : ObjectPermissions) (grants : List (ObjectPermission × String)) :
    ObjectPermissions :=
  grants.foldl (fun s g => s.add g.1 g.2) s

/-- The union of a set with others. An identifier without permissions is dropped. -/
def merged (s : ObjectPermissions) (others : List ObjectPermissions) : ObjectPermissions :=
  empty.addAll ((s :: others).flatMap pairs)

def ofNames (entries : List (String × List Json)) : Except Failure ObjectPermissions := do
  let grants ← entries.mapM fun (identifier, names) =>
    names.mapM fun name => (ObjectPermission.ofJson name).map (·, identifier)
  return empty.addAll grants.flatten

theorem on_add (s : ObjectPermissions) (p : ObjectPermission) (identifier i : String) :
    (s.add p identifier).on i =
      if i = identifier then (s.on identifier).insert p else s.on i := by
  simp only [on, add, Table.get?_put]
  split <;> rfl

theorem has_add (s : ObjectPermissions) (p q : ObjectPermission) (identifier i : String) :
    (s.add p identifier).has q i = (s.has q i || (q = p && i = identifier)) := by
  rw [has, on_add]
  by_cases h : i = identifier
  · subst h
    by_cases hq : q = p <;> simp [has, hq]
  · simp [has, h]

theorem on_mention (s : ObjectPermissions) (identifier i : String) :
    (s.mention identifier).on i = s.on i := by
  simp only [on, mention, Table.get?_put]
  split
  · simp_all
  · rfl

end ObjectPermissions

structure Permissions where
  system : List SystemPermission := []
  connection : ObjectPermissions := .empty
  user : ObjectPermissions := .empty
  userGroup : ObjectPermissions := .empty
deriving DecidableEq

namespace Permissions

def on (p : Permissions) : Kind → ObjectPermissions
  | .user => p.user
  | .userGroup => p.userGroup
  | .connection => p.connection

def mergeSystem (first : List SystemPermission) (others : List (List SystemPermission)) :
    List SystemPermission :=
  others.flatten.foldl (fun s p => s.insert p) first

def merged (p : Permissions) (others : List Permissions) : Permissions where
  system := mergeSystem p.system (others.map (·.system))
  connection := p.connection.merged (others.map (·.connection))
  user := p.user.merged (others.map (·.user))
  userGroup := p.userGroup.merged (others.map (·.userGroup))

def isAdministrator (p : Permissions) : Bool := p.system.contains .administer

end Permissions

end AccessDirectory
