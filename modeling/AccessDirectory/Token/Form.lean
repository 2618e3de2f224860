import AccessDirectory.Clock
import AccessDirectory.Hash.Hmac
import AccessDirectory.Json.Writer
import AccessDirectory.Representation
import AccessDirectory.Text.Base64Url
import AccessDirectory.Text.Utf8
import AccessDirectory.Token.Key

/-! Tokens: a header, claims and a signature over the two, each in base 64, with points between them.
A token names a user and the span of time during which it may be used. -/

namespace AccessDirectory.Token
open Text

def algorithm : String := "HS256"

def header : Json := .obj [("alg", .str algorithm), ("typ", .str "JWT")]

def claims (username : String) (issued expires : Int) : Fields :=
  [("sub", .str username), ("iat", .int issued), ("exp", .int expires)]

def segment (value : Json) : List Char := Base64Url.encode (Utf8.encode value.compactText)

def signature (key : String) (signed : List Char) : List UInt8 :=
  Hash.hmac (Utf8.encode key) (Utf8.encode (String.ofList signed))

def assemble (key : String) (claims : Fields) : List Char :=
  let signed := segment header ++ '.' :: segment (.obj claims)
  signed ++ '.' :: Base64Url.encode (signature key signed)

inductive IssueFault
  /-- The token would be issued or expire at no instant that has a date. -/
  | beyondCalendar
  | unfitKey (fault : KeyFault)
deriving DecidableEq, Repr

def defaultLifetime : Int := 3600

def issue (username key : String) (lifetime : Int) (now : Clock.Instant) :
    Except IssueFault String :=
  let expires := now + lifetime * 1000000
  if !(Clock.inRange now && Clock.inRange expires) then .error .beyondCalendar
  else match checkKey key with
    | .error fault => .error (.unfitKey fault)
    | .ok key =>
      .ok (String.ofList
        (assemble key (claims username (Clock.seconds now) (Clock.seconds expires))))

end AccessDirectory.Token
