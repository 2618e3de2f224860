import AccessDirectory.Permission

/-! The objects that directories keep. Instants are microseconds since the start of 1970. Passwords and
connection parameters are kept but never shown. -/

namespace AccessDirectory

abbrev Attributes := Table (Option String)

def rootParent : String := "ROOT"

structure User where
  identifier : Option String
  password : Option String := none
  attributes : Attributes := ∅
  lastActive : Option Int := none
  groups : List String := []
  permissions : Permissions := {}
deriving DecidableEq

structure UserGroup where
  identifier : Option String
  attributes : Attributes := ∅
  groups : List String := []
  permissions : Permissions := {}
deriving DecidableEq

structure Connection where
  identifier : Option String
  name : String := ""
  parent : String := rootParent
  protocol : String := ""
  parameters : Table String := ∅
  attributes : Attributes := ∅
deriving DecidableEq

@[reducible] def Kind.Object : Kind → Type
  | .user => User
  | .userGroup => UserGroup
  | .connection => Connection

instance (k : Kind) : DecidableEq k.Object :=
  match k with
  | .user => inferInstanceAs (DecidableEq User)
  | .userGroup => inferInstanceAs (DecidableEq UserGroup)
  | .connection => inferInstanceAs (DecidableEq Connection)

namespace Kind.Object

def identifier {k : Kind} (o : k.Object) : Option String :=
  match k, o with
  | .user, (u : User) => u.identifier
  | .userGroup, (g : UserGroup) => g.identifier
  | .connection, (c : Connection) => c.identifier

def setIdentifier {k : Kind} (o : k.Object) (identifier : Option String) : k.Object :=
  match k, o with
  | .user, (u : User) => { u with identifier := identifier }
  | .userGroup, (g : UserGroup) => { g with identifier := identifier }
  | .connection, (c : Connection) => { c with identifier := identifier }

def attributes {k : Kind} (o : k.Object) : Attributes :=
  match k, o with
  | .user, (u : User) => u.attributes
  | .userGroup, (g : UserGroup) => g.attributes
  | .connection, (c : Connection) => c.attributes

def setAttributes {k : Kind} (o : k.Object) (attributes : Attributes) : k.Object :=
  match k, o with
  | .user, (u : User) => { u with attributes := attributes }
  | .userGroup, (g : UserGroup) => { g with attributes := attributes }
  | .connection, (c : Connection) => { c with attributes := attributes }

@[simp] theorem identifier_setIdentifier {k : Kind} (o : k.Object) (i : Option String) :
    identifier (setIdentifier o i) = i := by cases k <;> rfl

@[simp] theorem attributes_setIdentifier {k : Kind} (o : k.Object) (i : Option String) :
    attributes (setIdentifier o i) = attributes o := by cases k <;> rfl

end Kind.Object

end AccessDirectory
