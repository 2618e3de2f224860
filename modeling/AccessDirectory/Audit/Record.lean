import AccessDirectory.Clock
import AccessDirectory.Event
import AccessDirectory.Hash.Hmac
import AccessDirectory.Json.Writer
import AccessDirectory.Representation
import AccessDirectory.Text.Blank
import AccessDirectory.Text.Utf8

/-! Records of the audit trail. A record is one line of JSON; if there is a key, its last member signs
the others by a keyed hash of their canonical text. -/

namespace AccessDirectory.Audit

/-- The keyed hash of the canonical text of a value. Nothing is signed with an empty key. -/
def sign (key : String) (value : Json) : String :=
  if key.isEmpty then ""
  else Text.Hex.ofBytes (Hash.hmac (Text.Utf8.encode key) (Text.Utf8.encode value.canonical))

def failureJson : Option Failure → Json
  | none => .null
  | some f => .obj [("type", .str f.kind.label), ("message", .str f.message)]

def fields (now : Clock.Instant) (e : Event) : Fields :=
  [("timestamp", .str (Clock.stamp now)), ("directory_type", .str e.kind.name),
    ("operation", .str e.action.name), ("identifier", .ofOption e.identifier),
    ("username", .str e.user), ("authentication_provider", .str e.provider),
    ("success", .bool e.succeeded), ("failure", failureJson e.failure)]

def signedFields (key : String) (fields : Fields) : Fields :=
  let signature := sign key (.obj fields)
  if signature.isEmpty then fields else fields ++ [("signature", .str signature)]

/-- The line of an event; blanks around the key do not count. -/
def line (key : String) (now : Clock.Instant) (e : Event) : String :=
  (Json.obj (signedFields (Text.strip key) (fields now e))).spacedText

end AccessDirectory.Audit
