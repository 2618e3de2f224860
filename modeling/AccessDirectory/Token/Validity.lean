import AccessDirectory.Json.Reader
import AccessDirectory.Text.Digit
import AccessDirectory.Text.Encoding
import AccessDirectory.Token.Form

/-! Validation of tokens. The form comes first, then the signature, and then the claims; the first thing
that is wrong rejects the token. -/

namespace AccessDirectory.Token
open Text

inductive Part
  | header
  | payload
  | signature
deriving DecidableEq, Repr

def Part.name : Part → String
  | header => "header"
  | payload => "payload"
  | signature => "crypto"

inductive TimeClaim
  | issued
  | notBefore
  | expires
deriving DecidableEq, Repr

def TimeClaim.key : TimeClaim → String
  | issued => "iat"
  | notBefore => "nbf"
  | expires => "exp"

def TimeClaim.title : TimeClaim → String
  | issued => "Issued At claim (iat)"
  | notBefore => "Not Before claim (nbf)"
  | expires => "Expiration Time claim (exp)"

inductive Rejection
  | tooFewSegments
  | padding (part : Part)
  | unreadable (part : Part) (reason : String)
  /-- A payload stands where a header says that there is none. -/
  | payloadPresent
  | keyIdentifier
  | criticalList
  | criticalValue
  | criticalUnknown (extension : String)
  | criticalMissing (extension : String)
  /-- An extension is used that is not declared critical. -/
  | criticalUndeclared (extension : String)
  | detached
  | algorithmMissing
  | algorithmRefused
  | signature
  | claimMissing (claim : String)
  | claimNotInteger (claim : TimeClaim)
  | early (claim : TimeClaim)
  | expired
  | audience
  | subjectNotText
  | identifierNotText
  | subjectEmpty
deriving DecidableEq, Repr

namespace Rejection

def reason : Rejection → String
  | tooFewSegments => "Not enough segments"
  | padding part => "Invalid " ++ part.name ++ " padding"
  | unreadable part reason => "Invalid " ++ part.name ++ " string: " ++ reason
  | payloadPresent => "Payload segment must be empty when 'b64' is false."
  | keyIdentifier => "Key ID header parameter must be a string"
  | criticalList => "Invalid 'crit' header: must be a non-empty list"
  | criticalValue => "Invalid 'crit' header: values must be strings"
  | criticalUnknown extension => "Unsupported critical extension: " ++ extension
  | criticalMissing extension => "Critical extension '" ++ extension ++ "' is missing from headers"
  | criticalUndeclared extension =>
    "The '" ++ extension ++ "' header parameter requires '" ++ extension ++ "' to be listed in 'crit'."
  | detached =>
    "It is required that you pass in a value for the \"detached_payload\" argument to decode a message having the b64 header set to false."
  | algorithmMissing => "Algorithm not specified"
  | algorithmRefused => "The specified alg value is not allowed"
  | signature => "Signature verification failed"
  | claimMissing claim => "Token is missing the \"" ++ claim ++ "\" claim"
  | claimNotInteger claim => claim.title ++ " must be an integer."
  | early claim => "The token is not yet valid (" ++ claim.key ++ ")"
  | expired => "Token has expired"
  | audience => "Invalid audience"
  | subjectNotText => "Subject must be a string"
  | identifierNotText => "JWT ID must be a string"
  | subjectEmpty => "Token subject is missing"

def message (r : Rejection) : String :=
  match r with
  | expired | subjectEmpty => r.reason
  | _ => "Invalid token: " ++ r.reason

end Rejection

inductive Fault
  | unfitKey (fault : KeyFault)
  /-- The instant of validation has no date. -/
  | beyondCalendar
  | rejected (rejection : Rejection)
deriving DecidableEq, Repr

def cutLast? (cs : List Char) : Option (List Char × List Char) :=
  let tail := (cs.reverse.takeWhile (· ≠ '.')).reverse
  if tail.length < cs.length then some (cs.take (cs.length - tail.length - 1), tail) else none

def cutFirst? (cs : List Char) : Option (List Char × List Char) :=
  let start := cs.takeWhile (· ≠ '.')
  if start.length < cs.length then some (start, cs.drop (start.length + 1)) else none

structure Segments where
  signed : List Char
  header : List Char
  payload : List Char
  signature : List Char

def segments? (token : List Char) : Option Segments := do
  let (signed, signature) ← cutLast? token
  let (header, payload) ← cutFirst? signed
  return { signed, header, payload, signature }

def readObject (part : Part) (bytes : Bytes) : Except Rejection Fields :=
  match Encoding.decode bytes with
  | .error fault => .error (.unreadable part fault.message)
  | .ok text =>
    match Json.read text with
    | .error fault => .error (.unreadable part (fault.message text))
    | .ok (.obj members) => .ok members
    | .ok _ => .error (.unreadable part "must be a json object")

def decodeSegment (part : Part) (cs : List Char) : Except Rejection Bytes :=
  match Base64Url.decode? cs with
  | some bytes => .ok bytes
  | none => .error (.padding part)

structure Opened where
  header : Fields
  payload : Bytes
  signed : List Char
  signature : Bytes

/-- The extension that a header may declare critical. It says whether the payload is in base 64. -/
def knownExtension : String := "b64"

def isDetached (header : Fields) : Bool :=
  match header.lookup knownExtension with
  | some (.bool false) => true
  | _ => false

def openPayload (header : Fields) (segment : List Char) : Except Rejection Bytes :=
  if isDetached header && !segment.isEmpty then .error .payloadPresent
  else decodeSegment .payload segment

def openParts (token : List Char) : Except Rejection Opened :=
  match segments? token with
  | none => .error .tooFewSegments
  | some s => do
    let header ← decodeSegment .header s.header
    let header ← readObject .header header
    let payload ← openPayload header s.payload
    let signature ← decodeSegment .signature s.signature
    return { header, payload, signed := s.signed, signature }

def checkExtension (header : Fields) : Json → Except Rejection Unit
  | .str extension =>
    if extension ≠ knownExtension then .error (.criticalUnknown extension)
    else if (header.lookup extension).isNone then .error (.criticalMissing extension)
    else .ok ()
  | _ => .error .criticalValue

def checkCritical (header : Fields) : Except Rejection Unit :=
  match header.lookup "crit" with
  | none => .ok ()
  | some (.arr []) => .error .criticalList
  | some (.arr extensions) => extensions.forM (checkExtension header)
  | some _ => .error .criticalList

def isDeclared (header : Fields) : Bool :=
  match header.lookup "crit" with
  | some (.arr extensions) => extensions.any fun
    | .str extension => extension = knownExtension
    | _ => false
  | _ => false

def checkHeader (header : Fields) : Except Rejection Unit := do
  match header.lookup "kid" with
  | none | some (.str _) => pure ()
  | some _ => throw .keyIdentifier
  checkCritical header
  if isDetached header then
    throw (if isDeclared header then .detached else .criticalUndeclared knownExtension)
  match header.lookup "alg" with
  | none => throw .algorithmMissing
  | some (.str name) => if name = algorithm then pure () else throw .algorithmRefused
  | some _ => throw .algorithmRefused

/-- A value as a whole number: numbers without their fraction, truth values as 0 and 1, and texts of
digits. -/
def wholeNumber? : Json → Option Int
  | .int n => some n
  | .bool b => some (if b then 1 else 0)
  | .real x => x.truncate?
  | .str s => readInt? s
  | _ => none

def timeClaim (claims : Fields) (claim : TimeClaim) : Except Rejection (Option Int) :=
  match claims.lookup claim.key with
  | none => .ok none
  | some value =>
    match wholeNumber? value with
    | some n => .ok (some n)
    | none => .error (.claimNotInteger claim)

def require (claims : Fields) (claim : String) : Except Rejection Unit :=
  match claims.lookup claim with
  | none | some .null => .error (.claimMissing claim)
  | some _ => .ok ()

def checkStarted (claims : Fields) (now : Binary64) (claim : TimeClaim) : Except Rejection Unit := do
  match ← timeClaim claims claim with
  | some n => if Binary64.intLe n now then pure () else throw (.early claim)
  | none => pure ()

def checkExpiry (claims : Fields) (now : Binary64) : Except Rejection Unit := do
  match ← timeClaim claims .expires with
  | some n => if Binary64.intLe n now then throw .expired else pure ()
  | none => pure ()

def requireClaims (claims : Fields) : Except Rejection Unit := do
  require claims "sub"
  require claims "exp"

def checkClaims (claims : Fields) (now : Clock.Instant) : Except Rejection String := do
  let seconds := Clock.realSeconds now
  checkStarted claims seconds .issued
  checkStarted claims seconds .notBefore
  checkExpiry claims seconds
  if ((claims.lookup "aud").getD .null).isTruthy then throw .audience
  match claims.lookup "sub" with
  | some (.str subject) =>
    match claims.lookup "jti" with
    | none | some (.str _) => if subject.isEmpty then throw .subjectEmpty else return subject
    | some _ => throw .identifierNotText
  | _ => throw .subjectNotText

structure Validated where
  subject : String
  claims : Fields

def rejecting {α : Type} : Except Rejection α → Except Fault α
  | .ok a => .ok a
  | .error r => .error (.rejected r)

def validate (token key : String) (now : Clock.Instant) : Except Fault Validated := do
  let parts ← rejecting (openParts token.toList)
  rejecting (checkHeader parts.header)
  match checkKey key with
  | .error fault => throw (.unfitKey fault)
  | .ok key =>
    if parts.signature ≠ signature key parts.signed then throw (.rejected .signature)
    let claims ← rejecting (readObject .payload parts.payload)
    rejecting (requireClaims claims)
    if !Clock.inRange now then throw .beyondCalendar
    let subject ← rejecting (checkClaims claims now)
    return { subject, claims }

end AccessDirectory.Token
