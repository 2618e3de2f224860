import AccessDirectory.Service.Collection

/-! Operations on an opened object: showing it, storing changes, deleting it. -/

namespace AccessDirectory

namespace Opened

def identifier (c : Opened) : Option String := Kind.Object.identifier c.object

def shown (c : Opened) : Fields := Kind.represent c.object

end Opened

namespace World

def store (w : World) (c : Opened) : Except Failure Unit × World :=
  let e := c.session.event c.kind .update c.identifier (some c.object)
  match w.directories.find c.kind with
  | .error f => (.error f, w)
  | .ok d =>
    match d.update c.object with
    | .error f => w.refuse e f
    | .ok d => w.commit e d

/-- Changes the object that a client holds as submitted and stores it. The client keeps the changed
object even if it cannot be stored. -/
def update (w : World) (c : Opened) (submission : Json) : Except Failure Unit × Opened × World :=
  match Fields.ofSubmission .nothingToUpdate submission with
  | .error f => (.error f, c, w)
  | .ok fields =>
    match Kind.revise c.object (c.kind.sanitize (w.declared c.kind) fields) with
    | .error f =>
      let e := c.session.event c.kind .update c.identifier (some c.object)
      let ended := w.refuse e f
      (ended.1, c, ended.2)
    | .ok o =>
      let c := { c with object := o }
      let ended := w.store c
      (ended.1, c, ended.2)

def delete (w : World) (c : Opened) : Except Failure Unit × World :=
  w.remove c.session c.kind c.identifier

end World

end AccessDirectory
