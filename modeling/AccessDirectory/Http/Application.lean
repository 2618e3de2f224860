import AccessDirectory.Config.Settings
import AccessDirectory.Http.Gate
import AccessDirectory.Http.Problem
import AccessDirectory.Http.Route
import AccessDirectory.Json.Reader
import AccessDirectory.Service.Opened

/-! The application: requests to the site and to the collections, and their responses. A request to a
collection passes the gate first; its body is read only when the collection, or the object that it is
about, has been found. -/

namespace AccessDirectory.Http
open Text

structure Application where
  settings : Settings
  /-- The sessions, unless the application runs without any registry of them. -/
  sessions : Option Sessions
  /-- Where the collections are found. -/
  base : Pattern
  world : World
  /-- Whether the application has what reports events. -/
  hasListeners : Bool := true

def collectionKind? (name : String) : Option Kind :=
  if name = "users" then some .user
  else if name = "userGroups" then some .userGroup
  else if name = "connections" then some .connection
  else none

def findCollection (w : World) (name : String) : Except Failure Kind :=
  match collectionKind? name with
  | some k => if (w.directories.get? k).isSome then .ok k else .error (.notFound (some name))
  | none => .error (.notFound (some name))

/-- The value of a body; no bytes are the value null. -/
def readBody (limit : Int) (body : Bytes) : Except Problem Json :=
  if body.isEmpty then .ok .null
  else if limit < body.length then .error (.aborted 413 none)
  else match Encoding.decode body with
    | .error _ => .error (.aborted 400 none)
    | .ok text =>
      match Json.read text with
      | .ok value => .ok value
      | .error _ => .error (.aborted 400 none)

def requestedPermissions (t : Target) : Except Failure (List Json) :=
  let names := t.values "permission"
  if names.all fun n => (ObjectPermission.ofName? n).isSome then .ok (names.map .str)
  else .error .invalidFilter

def shown (fields : Fields) : Response := { status := 200, content := .json (.obj fields) }

def done : Response := { status := 204 }

def replying {α : Type} (reply : α → Response) : Except Failure α → Except Problem Response
  | .ok a => .ok (reply a)
  | .error f => .error (.failed f)

def listReply (w : World) (s : Session) (k : Kind) (t : Target) : Except Problem Response :=
  replying shown (requestedPermissions t >>= w.list s k)

def collectionReply (limit : Int) (w : World) (s : Session) (k : Kind) (t : Target) (r : Request) :
    Except Problem Response × World :=
  match r.method with
  | .patch =>
    match readBody limit r.content with
    | .error p => (.error p, w)
    | .ok submission =>
      let ended := w.patch s k submission
      (replying (fun _ => done) ended.1, ended.2)
  | .post =>
    match readBody limit r.content with
    | .error p => (.error p, w)
    | .ok submission =>
      let ended := w.create s k submission
      (replying shown ended.1, ended.2)
  | _ => (listReply w s k t, w)

def openedReply (limit : Int) (w : World) (c : Opened) (r : Request) :
    Except Problem Response × World :=
  match r.method with
  | .put =>
    match readBody limit r.content with
    | .error p => (.error p, w)
    | .ok submission =>
      let ended := w.update c submission
      (replying (fun _ => done) ended.1, ended.2.2)
  | .delete =>
    let ended := w.delete c
    (replying (fun _ => done) ended.1, ended.2)
  | _ => (.ok (shown c.shown), w)

def objectReply (limit : Int) (w : World) (s : Session) (k : Kind) (identifier : String)
    (r : Request) : Except Problem Response × World :=
  match w.fetch s k identifier with
  | (.error f, w) => (.error (.failed f), w)
  | (.ok c, w) => openedReply limit w c r

def directoryReply (limit : Int) (w : World) (s : Session) (t : Target) (r : Request) :
    Endpoint → Except Problem Response × World
  | .collection name =>
    match findCollection w name with
    | .error f => (.error (.failed f), w)
    | .ok k => collectionReply limit w s k t r
  | .object name identifier =>
    match findCollection w name with
    | .error f => (.error (.failed f), w)
    | .ok k => objectReply limit w s k identifier r
  | _ => (.error (.aborted 404 none), w)

def handlerName (e : Endpoint) (m : Method) : String :=
  match e, m with
  | .object _ _, .put => "update_object"
  | .object _ _, .delete => "delete_object"
  | .object _ _, _ => "get_object"
  | _, .patch => "patch_objects"
  | _, .post => "create_object"
  | _, _ => "get_objects"

namespace Application

def note (w : World) (line : Option LogLine) : World :=
  match line with
  | some line => { w with journal := w.journal.write w.given.threshold line }
  | none => w

def conclude (a : Application) (reply : Except Problem Response) (w : World) : Response × World :=
  match reply with
  | .ok response => (response, w)
  | .error p =>
    let told := p.respond (some a.settings.maxBodySize)
    (told.1, note w told.2)

def guardedReply (a : Application) (r : Request) (d : Destination) :
    Except Problem Response × World :=
  let entered := authenticate a.settings.secretKey a.sessions a.world.given.now r.target.path
    (r.header? "Authorization")
  let w := note a.world entered.2
  match entered.1 with
  | .error f => (.error (.failed f), w)
  | .ok s =>
    if r.method = .options then (.ok { status := 200 }, w)
    else match d.stray with
      | some name =>
        (.error (.failed (.unknownArgument (handlerName d.endpoint r.method) name)), w)
      | none => directoryReply a.settings.maxBodySize w s r.target r d.endpoint

def isReady (a : Application) : Bool := a.sessions.isSome && a.hasListeners

def siteReply (a : Application) (r : Request) (e : Endpoint) : Except Problem Response :=
  if r.method = .options then .ok { status := 200 }
  else match e with
    | .health => .ok { status := 200, content := .text "ok" }
    | .ready =>
      if a.isReady then .ok { status := 200, content := .text "ready" }
      else .ok { status := 503, content := .text "not ready" }
    | _ => .error (.aborted 404 none)

def correlationOf (r : Request) : Option String :=
  (r.header? "X-Correlation-Id").filter (!·.isEmpty)

def respond (a : Application) (r : Request) : Response × World :=
  if r.hasBadHost then a.conclude (.error (.aborted 400 none)) a.world
  else match route a.base r.method r.isUpgrade r.soughtPath with
    | .unknown => a.conclude (.error (.aborted 404 none)) a.world
    | .wrongMethod => a.conclude (.error (.aborted 405 none)) a.world
    | .wrongProtocol => a.conclude (.error (.aborted 400 none)) a.world
    | .broken => a.conclude (.error (.aborted 500 none)) a.world
    | .redirect => ({ status := 308, content := .page }, a.world)
    | .destination d =>
      if d.endpoint.isGuarded then
        let reply := a.guardedReply r d
        let ended := a.conclude reply.1 reply.2
        ({ ended.1 with correlation := correlationOf r }, ended.2)
      else a.conclude (a.siteReply r d.endpoint) a.world

/-- The name of the method that asks for no content. In another case it is served all the same, with
content. -/
def bareMethodName : String := "HEAD"

def handle (a : Application) (r : Request) : Response × Application :=
  let ended := a.respond r
  let response :=
    if r.methodName = bareMethodName then { ended.1 with content := .empty } else ended.1
  (response, { a with world := ended.2 })

end Application

end AccessDirectory.Http
