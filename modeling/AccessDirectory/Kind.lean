/-! The kinds of objects that the service keeps, each in a directory of its own. -/

namespace AccessDirectory

inductive Kind
  | user
  | userGroup
  | connection
deriving DecidableEq, Repr, Inhabited

namespace Kind

def all : List Kind := [user, userGroup, connection]

def name : Kind → String
  | user => "USER"
  | userGroup => "USER_GROUP"
  | connection => "CONNECTION"

def ofName? (s : String) : Option Kind := all.find? (·.name = s)

def recordType : Kind → String
  | user => "User"
  | userGroup => "UserGroup"
  | connection => "Connection"

/-- The kind of a record type, given by its name and those of the types that it extends. -/
def ofLineage? (lineage : List String) : Option Kind :=
  all.find? fun k => lineage.contains k.recordType

end Kind

end AccessDirectory
