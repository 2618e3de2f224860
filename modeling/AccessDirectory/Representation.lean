import AccessDirectory.Clock
import AccessDirectory.Directory
import AccessDirectory.Text.Blank

/-! How clients see objects and how their submissions become objects. Clients see neither passwords nor
connection parameters, and may set only the attributes that their context declares. A submission is
checked field by field, in the order in which the fields stand in the object. -/

namespace AccessDirectory

abbrev Fields := List (String × Json)

namespace Fields

def requireText (fields : Fields) (field : String) : Except Failure String :=
  match fields.lookup field with
  | some (.str s) => if Text.isBlankText s then .error (.textRequired field) else .ok s
  | _ => .error (.textRequired field)

def optionalText (fields : Fields) (field : String) : Except Failure (Option String) :=
  match fields.lookup field with
  | none | some .null => .ok none
  | some (.str s) => .ok (some s)
  | some _ => .error (.textExpected field)

/-- A field that may be missing or null, and must otherwise be an object all of whose values `accept`
takes. -/
def mapping {α : Type} (accept : Json → Option α) (fields : Fields) (field : String) :
    Except Failure (Option (Table α)) :=
  match fields.lookup field with
  | none | some .null => .ok none
  | some (.obj members) =>
    match members.mapM fun m => (accept m.2).map (m.1, ·) with
    | some entries => .ok (some (.ofList entries))
    | none => .error (.mappingExpected field)
  | some _ => .error (.mappingExpected field)

def textValue? : Json → Option String
  | .str s => some s
  | _ => none

def nullableText? : Json → Option (Option String)
  | .null => some none
  | .str s => some (some s)
  | _ => none

/-- The submitted attributes; a null value stands for an attribute without value. -/
def attributes (fields : Fields) : Except Failure Attributes :=
  (mapping nullableText? fields "attributes").map (·.getD ∅)

def parameters (fields : Fields) : Except Failure (Option (Table String)) :=
  mapping textValue? fields "parameters"

def parent (fields : Fields) : Except Failure String :=
  (optionalText fields "parentIdentifier").map fun
    | some s => if s.isEmpty then rootParent else s
    | none => rootParent

/-- The attributes with a declared name. What is no object has none. -/
def declaredOnly (declared : List String) : Option Json → Json
  | some (.obj members) => .obj (members.filter fun m => declared.contains m.1)
  | _ => .obj []

end Fields

def Json.ofOption : Option String → Json
  | none => .null
  | some s => .str s

def Attributes.toJson (attributes : Attributes) : Json :=
  .obj (attributes.map Json.ofOption).entries

namespace Kind
open Fields

def represent : {k : Kind} → k.Object → Fields
  | .user, (u : User) =>
    [("username", .ofOption u.identifier), ("attributes", Attributes.toJson u.attributes)] ++
      (u.lastActive.map fun t => ("lastActive", .int (Clock.milliseconds t))).toList
  | .userGroup, (g : UserGroup) =>
    [("identifier", .ofOption g.identifier), ("attributes", Attributes.toJson g.attributes)]
  | .connection, (c : Connection) =>
    [("identifier", .ofOption c.identifier), ("name", .str c.name),
      ("parentIdentifier", .str c.parent), ("protocol", .str c.protocol),
      ("attributes", Attributes.toJson c.attributes)]

def construct : (k : Kind) → Fields → Except Failure k.Object
  | .user, fields => do
    let username ← requireText fields "username"
    let password ← optionalText fields "password"
    let attributes ← attributes fields
    return ({ identifier := some username, password, attributes } : User)
  | .userGroup, fields => do
    let identifier ← requireText fields "identifier"
    let attributes ← attributes fields
    return ({ identifier := some identifier, attributes } : UserGroup)
  | .connection, fields => do
    let identifier ← optionalText fields "identifier"
    let name ← requireText fields "name"
    let parent ← parent fields
    let protocol ← requireText fields "protocol"
    let parameters ← parameters fields
    let attributes ← attributes fields
    return ({ identifier, name, parent, protocol, parameters := parameters.getD ∅, attributes } :
      Connection)

/-- An object changed by a submission. Submitted attributes are added to those of the object; a password
or parameters that are not submitted stay. -/
def revise : {k : Kind} → k.Object → Fields → Except Failure k.Object
  | .user, (u : User), fields => do
    let password ← optionalText fields "password"
    let attributes ← attributes fields
    return ({ u with
      password := password <|> u.password
      attributes := u.attributes.override attributes } : User)
  | .userGroup, (g : UserGroup), fields => do
    let attributes ← attributes fields
    return ({ g with attributes := g.attributes.override attributes } : UserGroup)
  | .connection, (c : Connection), fields => do
    let name ← requireText fields "name"
    let protocol ← requireText fields "protocol"
    let parent ← parent fields
    let attributes ← attributes fields
    let parameters ← parameters fields
    return ({ c with
      name, protocol, parent
      parameters := parameters.getD c.parameters
      attributes := c.attributes.override attributes } : Connection)

/-- A submission without what the client may not set: attributes that are not declared and, as
directories assign them, the identifiers of connections. -/
def sanitize (k : Kind) (declared : List String) (fields : Fields) : Fields :=
  let own := match k with
    | .connection => fields.filter (·.1 ≠ "identifier")
    | _ => fields
  putEntry "attributes" (declaredOnly declared (own.lookup "attributes")) own

end Kind

end AccessDirectory
