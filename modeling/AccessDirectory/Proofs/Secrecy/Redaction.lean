import AccessDirectory.Membership
import AccessDirectory.Proofs.Directory.Changes
import AccessDirectory.Representation

/-! Objects and submissions without what clients may write and never see: the passwords of users and the
parameters of connections. What is shown, what is refused and who holds which permission is the same
without them, and every change of a directory leads from redacted objects to redacted objects. -/

namespace AccessDirectory

namespace Kind.Object

def redact : {k : Kind} → k.Object → k.Object
  | .user, (u : User) => { u with password := none }
  | .userGroup, (g : UserGroup) => g
  | .connection, (c : Connection) => { c with parameters := ∅ }

variable {k : Kind}

@[simp] theorem identifier_redact (o : k.Object) : identifier (redact o) = identifier o := by
  cases k <;> rfl

theorem redact_redact (o : k.Object) : redact (redact o) = redact o := by cases k <;> rfl

theorem setIdentifier_redact (o : k.Object) (i : Option String) :
    setIdentifier (redact o) i = redact (setIdentifier o i) := by cases k <;> rfl

@[simp] theorem represent_redact (o : k.Object) : Kind.represent (redact o) = Kind.represent o := by
  cases k <;> rfl

end Kind.Object

namespace Fields

/-- The value of a member. A password that is a text, and parameters that are all texts, become null. -/
def redactValue (key : String) (value : Json) : Json :=
  match value with
  | .str s => if key = "password" then .null else .str s
  | .obj members =>
    if key = "parameters" && members.all fun m => (textValue? m.2).isSome then .null
    else .obj members
  | value => value

def redact (fields : Fields) : Fields := fields.map fun m => (m.1, redactValue m.1 m.2)

variable {fields : Fields} {field : String}

theorem redactValue_of_ne (hp : field ≠ "password") (hq : field ≠ "parameters") (value : Json) :
    redactValue field value = value := by
  cases value <;> simp [redactValue, hp, hq]

theorem lookup_redact (fields : Fields) (field : String) :
    (redact fields).lookup field = (fields.lookup field).map (redactValue field) :=
  lookup_map redactValue field fields

theorem lookup_redact_of_ne (hp : field ≠ "password") (hq : field ≠ "parameters") :
    (redact fields).lookup field = fields.lookup field := by
  have hid : redactValue field = id := funext (redactValue_of_ne hp hq)
  rw [lookup_redact, hid, Option.map_id]
  rfl

theorem requireText_redact (hp : field ≠ "password") (hq : field ≠ "parameters") :
    requireText (redact fields) field = requireText fields field := by
  rw [requireText, lookup_redact_of_ne hp hq, requireText]

theorem optionalText_redact (hp : field ≠ "password") (hq : field ≠ "parameters") :
    optionalText (redact fields) field = optionalText fields field := by
  rw [optionalText, lookup_redact_of_ne hp hq, optionalText]

@[simp] theorem attributes_redact (fields : Fields) :
    attributes (redact fields) = attributes fields := by
  rw [attributes, mapping, lookup_redact_of_ne (by decide) (by decide), attributes, mapping]

@[simp] theorem parent_redact (fields : Fields) : parent (redact fields) = parent fields := by
  rw [parent, optionalText_redact (by decide) (by decide), parent]

theorem password_redact (fields : Fields) :
    optionalText (redact fields) "password" = (optionalText fields "password").map fun _ => none := by
  unfold optionalText
  rw [lookup_redact]
  cases fields.lookup "password" with
  | none => rfl
  | some value =>
    cases value with
    | obj members =>
      have hkeep : redactValue "password" (.obj members) = .obj members := by simp [redactValue]
      rw [Option.map_some, hkeep]
      rfl
    | _ => rfl

theorem mapM_textValue?_isSome (members : List (String × Json)) :
    (members.mapM fun m => (textValue? m.2).map (m.1, ·)).isSome =
      members.all fun m => (textValue? m.2).isSome := by
  induction members with
  | nil => rfl
  | cons m rest ih =>
    rw [List.mapM_cons, List.all_cons, ← ih]
    cases textValue? m.2 with
    | none => rfl
    | some s => cases rest.mapM fun m => (textValue? m.2).map (m.1, ·) <;> rfl

theorem parameters_redact (fields : Fields) :
    parameters (redact fields) = (parameters fields).map fun _ => none := by
  unfold parameters mapping
  rw [lookup_redact]
  cases fields.lookup "parameters" with
  | none => rfl
  | some value =>
    cases value with
    | obj members =>
      have hall := mapM_textValue?_isSome members
      cases hm : members.mapM fun m => (textValue? m.2).map (m.1, ·) with
      | none =>
        rw [hm] at hall
        have hkeep : redactValue "parameters" (.obj members) = .obj members := by
          simp [redactValue, ← hall]
        simp only [Option.map_some, hkeep, hm]
        rfl
      | some entries =>
        rw [hm] at hall
        have hnull : redactValue "parameters" (.obj members) = .null := by
          simp [redactValue, ← hall]
        simp only [Option.map_some, hnull, hm]
        rfl
    | _ => rfl

theorem redact_putEntry (hp : field ≠ "password") (hq : field ≠ "parameters") (value : Json)
    (fields : Fields) :
    redact (putEntry field value fields) = putEntry field value (redact fields) := by
  induction fields with
  | nil => simp [redact, putEntry, redactValue_of_ne hp hq]
  | cons m rest ih =>
    simp only [redact] at ih
    by_cases hm : m.1 = field
    · simp [redact, putEntry, hm, redactValue_of_ne hp hq]
    · simp [redact, putEntry, hm, ih]

end Fields

namespace Kind
open Fields Kind.Object
variable {k : Kind}

theorem sanitize_redact (k : Kind) (declared : List String) (fields : Fields) :
    k.sanitize declared (Fields.redact fields) = Fields.redact (k.sanitize declared fields) := by
  have put : ∀ own : Fields,
      putEntry "attributes" (declaredOnly declared ((Fields.redact own).lookup "attributes"))
          (Fields.redact own) =
        Fields.redact
          (putEntry "attributes" (declaredOnly declared (own.lookup "attributes")) own) := by
    intro own
    rw [redact_putEntry (by decide) (by decide), lookup_redact_of_ne (by decide) (by decide)]
  cases k with
  | connection =>
    have hfilter : (Fields.redact fields).filter (·.1 ≠ "identifier") =
        Fields.redact (fields.filter (·.1 ≠ "identifier")) := by
      rw [Fields.redact, List.filter_map]
      rfl
    simp only [sanitize, hfilter, put]
  | _ => exact put fields

theorem construct_redact (fields : Fields) :
    k.construct (Fields.redact fields) = (k.construct fields).map Object.redact := by
  cases k with
  | user =>
    rw [construct, construct, requireText_redact (by decide) (by decide), password_redact,
      attributes_redact]
    cases requireText fields "username" <;> cases optionalText fields "password" <;>
      cases attributes fields <;> rfl
  | userGroup =>
    rw [construct, construct, requireText_redact (by decide) (by decide), attributes_redact]
    cases requireText fields "identifier" <;> cases attributes fields <;> rfl
  | connection =>
    rw [construct, construct, optionalText_redact (by decide) (by decide),
      requireText_redact (by decide) (by decide), requireText_redact (by decide) (by decide),
      parent_redact, parameters_redact, attributes_redact]
    cases optionalText fields "identifier" <;> cases requireText fields "name" <;>
      cases parent fields <;> cases requireText fields "protocol" <;>
      cases parameters fields <;> cases attributes fields <;> rfl

theorem revise_redact (o : k.Object) (fields : Fields) :
    revise (Object.redact o) (Fields.redact fields) = (revise o fields).map Object.redact := by
  cases k with
  | user =>
    rw [revise, revise, password_redact, attributes_redact]
    cases optionalText fields "password" <;> cases attributes fields <;> rfl
  | userGroup =>
    rw [revise, revise, attributes_redact]
    cases attributes fields <;> rfl
  | connection =>
    rw [revise, revise, requireText_redact (by decide) (by decide),
      requireText_redact (by decide) (by decide), parent_redact, parameters_redact,
      attributes_redact]
    cases requireText fields "name" <;> cases requireText fields "protocol" <;>
      cases parent fields <;> cases attributes fields <;> cases parameters fields <;> rfl

end Kind

namespace Directory
open Kind.Object
variable {k : Kind}

def redact (d : Directory k) : Directory k := { d with objects := d.objects.map Kind.Object.redact }

theorem redact_userGroup (d : Directory .userGroup) : d.redact = d := by
  have hid : d.objects.map (Kind.Object.redact (k := .userGroup)) = d.objects := Table.map_id _
  rw [redact, hid]

theorem guarded_map {α β : Type} (d : Directory k) (method : Method) (f : α → β)
    (result : Except Failure α) :
    d.redact.guarded method (result.map f) = (d.guarded method result).map f := by
  simp only [guarded, redact]
  cases d.outage method <;> rfl

theorem identifiers_redact (d : Directory k) : d.redact.identifiers = d.identifiers := by
  simp only [identifiers, redact, Table.keys_map, guarded]

theorem getAll_redact (d : Directory k) (ids : List String) :
    d.redact.getAll ids = (d.getAll ids).map (·.map Kind.Object.redact) := by
  have hget : d.redact.objects.get? = fun i => (d.objects.get? i).map Kind.Object.redact := by
    funext i
    exact Table.get?_map ..
  have hmap : ids.filterMap d.redact.objects.get? =
      (ids.filterMap d.objects.get?).map Kind.Object.redact := by rw [hget, List.map_filterMap]
  rw [getAll, hmap]
  exact d.guarded_map .getAll (·.map Kind.Object.redact) (.ok (ids.filterMap d.objects.get?))

theorem get_redact (d : Directory k) (i : String) :
    d.redact.get i = (d.get i).map (·.map Kind.Object.redact) := by
  have hget : d.redact.objects.get? i = (d.objects.get? i).map Kind.Object.redact := Table.get?_map ..
  rw [get, hget]
  exact d.guarded_map .get (·.map Kind.Object.redact) (.ok (d.objects.get? i))

theorem require_redact (d : Directory k) (i : String) :
    d.redact.require i = (d.require i).map Kind.Object.redact := by
  rw [require, get_redact, require]
  cases d.get i with
  | error f => rfl
  | ok found => cases found <;> rfl

theorem nextNumber_redact (d : Directory k) (n : Int) : d.redact.nextNumber n = d.nextNumber n := by
  have hcontains : d.redact.objects.contains = d.objects.contains := funext fun i =>
    Table.contains_map ..
  rw [nextNumber, nextNumber, hcontains]
  simp only [redact, Table.size_map]

theorem add_redact (d : Directory k) (o : k.Object) :
    d.redact.add (Kind.Object.redact o) =
      (d.add o).map fun added => (Kind.Object.redact added.1, added.2.redact) := by
  have hown : ownIdentifier? (Kind.Object.redact o) = ownIdentifier? o := by
    simp only [ownIdentifier?, identifier_redact]
  unfold add
  rw [← guarded_map]
  congr 1
  rw [hown]
  cases ownIdentifier? o with
  | some i =>
    simp only [redact, Table.contains_map]
    split
    · rfl
    · simp only [Except.map, Table.map_put]
  | none =>
    simp only [nextNumber_redact]
    cases hc : d.counter with
    | none =>
      simp only [redact, hc]
      rfl
    | some n => simp only [redact, hc, Except.map, Table.map_put, setIdentifier_redact]

theorem update_redact (d : Directory k) (o : k.Object) :
    d.redact.update (Kind.Object.redact o) = (d.update o).map redact := by
  unfold update
  rw [← guarded_map, identifier_redact]
  congr 1
  cases Kind.Object.identifier o with
  | none => rfl
  | some i =>
    simp only [redact, Table.contains_map]
    split
    · simp only [Except.map, redact, Table.map_put]
    · rfl

theorem remove_redact (d : Directory k) (identifier : Option String) :
    d.redact.remove identifier = (d.remove identifier).map redact := by
  unfold remove
  rw [← guarded_map]
  congr 1
  cases identifier with
  | none => rfl
  | some i =>
    simp only [redact, Table.contains_map]
    split
    · simp only [Except.map, redact, Table.map_erase]
    · rfl

end Directory

namespace Directories

def redact (ds : Directories) : Directories where
  users := ds.users.map Directory.redact
  userGroups := ds.userGroups.map Directory.redact
  connections := ds.connections.map Directory.redact

theorem get?_redact (ds : Directories) (k : Kind) :
    ds.redact.get? k = (ds.get? k).map Directory.redact := by cases k <;> rfl

theorem set_redact (ds : Directories) {k : Kind} (d : Directory k) :
    ds.redact.set d.redact = (ds.set d).redact := by cases k <;> rfl

theorem find_redact (ds : Directories) (k : Kind) :
    ds.redact.find k = (ds.find k).map Directory.redact := by
  rw [find, get?_redact, find]
  cases ds.get? k <;> rfl

theorem inherited_redact (ds : Directories) (memberships : List String) :
    ds.redact.inherited memberships = ds.inherited memberships := by
  have hgroups : ds.redact.userGroups = ds.userGroups := by
    change ds.userGroups.map Directory.redact = ds.userGroups
    cases ds.userGroups with
    | none => rfl
    | some d => exact congrArg some d.redact_userGroup
  unfold inherited
  rw [hgroups]

theorem effectivePermissions_redact (ds : Directories) (i : String) :
    ds.redact.effectivePermissions i = ds.effectivePermissions i := by
  have haccount : ds.redact.account i =
      (ds.account i).map (·.map (Kind.Object.redact (k := .user))) := by
    rw [account, account, find_redact]
    cases ds.find .user with
    | error f => rfl
    | ok d => exact d.get_redact i
  rw [effectivePermissions, haccount, effectivePermissions]
  cases ds.account i with
  | error f => rfl
  | ok found =>
    cases found with
    | none => rfl
    | some u =>
      -- The groups and the permissions of an account are no secrets.
      simp only [Except.map, Option.map, inherited_redact, Kind.Object.redact, bind, Except.bind]

end Directories

end AccessDirectory
