import AccessDirectory.Patch
import AccessDirectory.Representation
import AccessDirectory.Service.World

/-! Operations on a whole collection: listing what a user may see, creating objects, removing them by
patches, and opening one of them. -/

namespace AccessDirectory

/-- An object as one client holds it. The client's changes reach storage only when they are stored. -/
structure Opened where
  kind : Kind
  object : kind.Object
  session : Session

def Fields.ofSubmission (missing : Failure) : Json → Except Failure Fields
  | .null => .error missing
  | .obj members => .ok members
  | _ => .error .notAnObject

namespace World

/-- The identifiers among those given on which a user holds one of the permissions named. An
administrator, and whoever names none, sees all. -/
def visible (effective : Permissions) (k : Kind) (names : List Json) (identifiers : List String) :
    Except Failure (List String) :=
  if effective.isAdministrator || names.isEmpty then .ok identifiers
  else (effective.on k).accessibleNamed names identifiers

def representAll {k : Kind} (objects : List k.Object) : Fields :=
  objects.map fun o => ((Kind.Object.identifier o).getD "", .obj (Kind.represent o))

def list (w : World) (s : Session) (k : Kind) (names : List Json) : Except Failure Fields := do
  let d ← w.directories.find k
  let effective ← w.directories.effectivePermissions s.self
  let identifiers ← d.identifiers
  let seen ← visible effective k names identifiers
  let objects ← d.getAll seen
  return representAll objects

def remove (w : World) (s : Session) (k : Kind) (identifier : Option String) :
    Except Failure Unit × World :=
  let e := s.event k .remove identifier
  match w.directories.find k with
  | .error f => (.error f, w)
  | .ok d =>
    match d.remove identifier with
    | .error f => w.refuse e f
    | .ok d => w.commit e d

def removeEach (w : World) (s : Session) (k : Kind) : List String → Except Failure Unit × World
  | [] => (.ok (), w)
  | identifier :: rest =>
    match w.remove s k (some identifier) with
    | (.error f, w) => (.error f, w)
    | (.ok (), w) => w.removeEach s k rest

/-- Applies patches. Nothing is removed unless every patch is a removal. -/
def patch (w : World) (s : Session) (k : Kind) (submission : Json) : Except Failure Unit × World :=
  match w.directories.find k, Patch.parse submission >>= Patch.targets with
  | .error f, _ => (.error f, w)
  | _, .error f => (.error f, w)
  | .ok _, .ok identifiers => w.removeEach s k identifiers

def submitted (w : World) (k : Kind) (submission : Json) : Except Failure k.Object := do
  let fields ← Fields.ofSubmission .nothingToCreate submission
  k.construct (k.sanitize (w.declared k) fields)

def add (w : World) (s : Session) {k : Kind} (d : Directory k) (o : k.Object) :
    Except Failure k.Object × World :=
  match d.add o with
  | .error f =>
    let ended := w.refuse (s.event k .add (Kind.Object.identifier o) (some o)) f
    (ended.1.map fun _ => o, ended.2)
  | .ok (o, d) =>
    let ended := w.commit (s.event k .add (Kind.Object.identifier o) (some o)) d
    (ended.1.map fun _ => o, ended.2)

def create (w : World) (s : Session) (k : Kind) (submission : Json) :
    Except Failure Fields × World :=
  match w.directories.find k, w.submitted k submission with
  | .error f, _ => (.error f, w)
  | _, .error f => (.error f, w)
  | .ok d, .ok o =>
    let added := w.add s d o
    (added.1.map Kind.represent, added.2)

/-- Opens an object. The success is reported when the object is already open, so that a listener that
fails then is not reported to the others. -/
def fetch (w : World) (s : Session) (k : Kind) (identifier : String) :
    Except Failure Opened × World :=
  let e := s.event k .get (some identifier)
  match w.directories.find k with
  | .error f => (.error f, w)
  | .ok d =>
    match d.require identifier with
    | .error f =>
      let told := w.reportFailure e f
      (.error told.1, told.2)
    | .ok o =>
      match w.notify { e with object := some o } with
      | (some f, w) => (.error f, w)
      | (none, w) => (.ok ⟨k, o, s⟩, w)

theorem fetch_of_require {w : World} {k : Kind} {d : Directory k} {identifier : String}
    {o : k.Object} (hd : w.directories.find k = .ok d) (ho : d.require identifier = .ok o)
    (s : Session) :
    w.fetch s k identifier = match w.notify (s.event k .get (some identifier) (some o)) with
      | (some f, w) => (.error f, w)
      | (none, w) => (.ok ⟨k, o, s⟩, w) := by
  simp only [fetch, hd, ho]
  rfl

end World

end AccessDirectory
