import AccessDirectory.Http.Target
import AccessDirectory.Json.Basic
import AccessDirectory.Text.Blank
import AccessDirectory.Text.LetterCase

/-! Requests and responses. Names of header fields are compared without regard to case, and a hyphen is
as good as an underscore. -/

namespace AccessDirectory.Http

inductive Method
  | get
  | head
  | post
  | put
  | patch
  | delete
  | options
  | other (name : String)
deriving DecidableEq, Repr

namespace Method

def named : List (String × Method) :=
  [("GET", get), ("HEAD", head), ("POST", post), ("PUT", put), ("PATCH", patch),
    ("DELETE", delete), ("OPTIONS", options)]

def ofName (name : String) : Method :=
  let name := Text.upper name
  (named.lookup name).getD (other name)

end Method

structure Request where
  methodName : String
  target : Target
  headers : List (String × String) := []
  body : List UInt8 := []

def isFieldValue (value : String) : Bool := value.toList.all fun c => c ≠ '\r' && c ≠ '\n'

def fieldName (name : String) : String :=
  Text.upper (String.ofList (name.toList.map fun c => if c = '-' then '_' else c))

/-- The items of a list between commas, if every quoted text in it ends; `quoted` and `escaped` say where in
a quoted text reading stands, and `item` is what was read of the current item. -/
def splitItems : (quoted escaped : Bool) → (item : List Char) → List Char → Option (List (List Char))
  | quoted, _, item, [] => if quoted then none else some (if item.isEmpty then [] else [item])
  | quoted, true, item, c :: rest => splitItems quoted false (item ++ [c]) rest
  | true, false, item, c :: rest =>
    if c = '\\' then splitItems true true item rest
    else splitItems (c ≠ Text.Quoted.doubleQuote) false (item ++ [c]) rest
  | false, false, item, c :: rest =>
    if c = ',' then (splitItems false false [] rest).map (item :: ·)
    else splitItems (c = Text.Quoted.doubleQuote) false (item ++ [c]) rest

def trimItem (cs : List Char) : String :=
  String.ofList (Text.trimBy (fun c => c = ' ' || c = '\t') cs)

def unquoteItem (item : String) : String :=
  match item.toList with
  | c :: d :: rest =>
    if c = Text.Quoted.doubleQuote && (d :: rest).getLast? = some c then
      String.ofList (d :: rest).dropLast
    else item
  | _ => item

def listItems (value : String) : List String :=
  ((splitItems false false [] value.toList).getD []).map fun item => unquoteItem (trimItem item)

def impliedPort (scheme : String) : List Char :=
  if ["", "http", "ws"].contains scheme then ":80".toList
  else if ["https", "wss"].contains scheme then ":443".toList
  else []

namespace Request

def method (r : Request) : Method := .ofName r.methodName

/-- The value of a header field. A field that is given several times has its values in order, with
commas between them. -/
def header? (r : Request) (name : String) : Option String :=
  match (r.headers.filter fun h => fieldName h.1 = fieldName name).map (·.2) with
  | [] => none
  | values => some (", ".intercalate values)

def soughtPath (r : Request) : String := if r.target.hasPath then r.target.path else ""

def headerText (r : Request) (name : String) : String := (r.header? name).getD ""

def lists (r : Request) (name word : String) : Bool :=
  (listItems (r.headerText name)).any fun item => Text.lower item = word

def isChunked (r : Request) : Bool := r.lists "Transfer-Encoding" "chunked"

def content (r : Request) : List UInt8 := if r.isChunked then [] else r.body

def isUpgrade (r : Request) : Bool :=
  r.target.scheme = "ws" || r.target.scheme = "wss" ||
    (Text.lower (r.headerText "Upgrade") = "websocket" && r.lists "Connection" "upgrade")

def host (r : Request) : List Char :=
  let given := ((r.header? "Host").getD r.target.host).toList
  let ending := impliedPort r.target.scheme
  let given := if ending.isSuffixOf given then given.take (given.length - ending.length) else given
  if HostName.isHost given then given else []

def hasBadHost (r : Request) : Bool :=
  (HostName.ascii? (r.host.takeWhile (· ≠ ':'))).isNone

/-- A client can only send a request to a host whose name it can show. -/
def checkHost (r : Request) : Except Reference.Fault Unit := do
  Reference.checkBrackets r.host
  let name := Reference.lowerName (Reference.splitPort r.host).1
  if !HostName.isShowable name then throw (.hostName (String.ofList name))

end Request

inductive Content
  | empty
  | text (text : String)
  | json (value : Json)
  /-- A page for people. -/
  | page

structure Response where
  status : Nat
  content : Content := .empty
  correlation : Option String := none

end AccessDirectory.Http
