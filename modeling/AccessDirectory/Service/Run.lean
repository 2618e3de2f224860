import AccessDirectory.Service.Opened

/-! Runs: operations one after the other, by any clients, with the opened objects that they hold. -/

namespace AccessDirectory

inductive Operation
  | list (session : Session) (kind : Kind) (names : List Json)
  | patch (session : Session) (kind : Kind) (submission : Json)
  | create (session : Session) (kind : Kind) (submission : Json)
  /-- Opens an object and keeps it under a handle. -/
  | fetch (session : Session) (kind : Kind) (identifier handle : String)
  | read (handle : String)
  | update (handle : String) (submission : Json)
  | delete (handle : String)
  /-- Changes of a directory that bypass the service. -/
  | insert (kind : Kind) (object : kind.Object)
  | overwrite (kind : Kind) (object : kind.Object)
  | discard (kind : Kind) (identifier : Option String)
  /-- Waits until the conditions are others. -/
  | await (given : Conditions)

structure Stage where
  world : World
  held : Table Opened := ∅

namespace Stage

def onHeld (g : Stage) (handle : String) (act : Opened → Except Failure Json × Stage) :
    Except Failure Json × Stage :=
  match g.held.get? handle with
  | some c => act c
  | none => (.ok .null, g)

def onDirectory (g : Stage) (k : Kind) (change : Directory k → Except Failure (Directory k)) :
    Except Failure Json × Stage :=
  match g.world.directories.find k >>= change with
  | .error f => (.error f, g)
  | .ok d =>
    (.ok .null, { g with world := { g.world with directories := g.world.directories.set d } })

def await (g : Stage) (given : Conditions) : Stage := { g with world := { g.world with given } }

def perform (g : Stage) : Operation → Except Failure Json × Stage
  | .list s k names => ((g.world.list s k names).map .obj, g)
  | .patch s k submission =>
    let ended := g.world.patch s k submission
    (ended.1.map fun _ => .null, { g with world := ended.2 })
  | .create s k submission =>
    let ended := g.world.create s k submission
    (ended.1.map .obj, { g with world := ended.2 })
  | .fetch s k identifier handle =>
    match g.world.fetch s k identifier with
    | (.error f, w) => (.error f, { g with world := w })
    | (.ok c, w) => (.ok (.ofOption c.identifier), { world := w, held := g.held.put handle c })
  | .read handle => g.onHeld handle fun c => (.ok (.obj c.shown), g)
  | .update handle submission => g.onHeld handle fun c =>
    let ended := g.world.update c submission
    (ended.1.map fun _ => .null, { world := ended.2.2, held := g.held.put handle ended.2.1 })
  | .delete handle => g.onHeld handle fun c =>
    let ended := g.world.delete c
    (ended.1.map fun _ => .null, { g with world := ended.2 })
  | .insert k o => g.onDirectory k fun d => (d.add o).map (·.2)
  | .overwrite k o => g.onDirectory k (·.update o)
  | .discard k identifier => g.onDirectory k (·.remove identifier)
  | .await given => (.ok .null, g.await given)

def run (g : Stage) : List Operation → Stage
  | [] => g
  | operation :: rest => (g.perform operation).2.run rest

end Stage

end AccessDirectory
