import AccessDirectory.Json.Reader
import AccessDirectory.Table
import AccessDirectory.Text.Encoding

/-! Which texts may be keys of a keyed hash. The empty text may not, nor may a text that looks like a
public or private key, a certificate or a description of a key: whoever knows the public part could then
sign. -/

namespace AccessDirectory.Token
open Text

inductive KeyFault
  | empty
  | asymmetric
  | description
deriving DecidableEq, Repr

def KeyFault.message : KeyFault → String
  | empty => "HMAC key must not be empty."
  | asymmetric =>
    "The specified key is an asymmetric key or x509 certificate and should not be used as an HMAC secret."
  | description =>
    "The specified key looks like a JWK and should not be used directly as an HMAC secret. Load it via PyJWK / HMACAlgorithm.from_jwk first."

def after? (opening cs : List Char) : Option (List Char) :=
  if opening.isPrefixOf cs then some (cs.drop opening.length) else none

def afterDash? : List Char → Option (List Char)
  | c :: rest => if c = '-' || c = ' ' then some rest else none
  | [] => none

def armourLabels : List String :=
  ["CERTIFICATE", "TRUSTED CERTIFICATE", "PRIVATE KEY", "PUBLIC KEY", "ENCRYPTED PRIVATE KEY",
    "OPENSSH PRIVATE KEY", "DSA PRIVATE KEY", "RSA PRIVATE KEY", "RSA PUBLIC KEY", "EC PRIVATE KEY",
    "DH PARAMETERS", "NEW CERTIFICATE REQUEST", "CERTIFICATE REQUEST", "SSH2 PUBLIC KEY",
    "SSH2 ENCRYPTED PRIVATE KEY", "X509 CRL"]

def afterBoundary? (word label cs : List Char) : Option (List Char) := do
  let cs ← after? ['-', '-', '-', '-'] cs
  let cs ← afterDash? cs
  let cs ← after? (word ++ ' ' :: label) cs
  let cs ← afterDash? cs
  after? ['-', '-', '-', '-'] cs

def boundary? (word : String) (cs : List Char) : Option (String × List Char) :=
  armourLabels.findSome? fun label =>
    (afterBoundary? word.toList label.toList cs).map (label, ·)

/-- Whether a block ends with something in it. A block starts at the last opening with its label, and
boundaries do not overlap; `opened` holds the labels of the openings so far, each with the text after it.
The fuel bounds the number of steps, each of which passes a character. -/
def holdsBlock (opened : Table (List Char)) : (fuel : Nat) → List Char → Bool
  | 0, _ => false
  | _, [] => false
  | fuel + 1, c :: rest =>
    match boundary? "BEGIN" (c :: rest), boundary? "END" (c :: rest) with
    | some (label, after), _ => holdsBlock (opened.put label after) fuel after
    | none, some (label, after) =>
      (opened.get? label).any (rest.length + 1 < ·.length) || holdsBlock opened fuel after
    | none, none => holdsBlock opened fuel rest

def isArmoured (cs : List Char) : Bool := holdsBlock ∅ cs.length cs

def shellKeyWords : List String :=
  ["ssh-ed25519", "ssh-rsa", "ssh-dss", "ecdsa-sha2-nistp256", "ecdsa-sha2-nistp384",
    "ecdsa-sha2-nistp521"]

def isShellKey (cs : List Char) : Bool := shellKeyWords.any fun w => w.toList.isPrefixOf cs

def keyTypeMember : String := "kty"

mutual
def describesKey : Json → Bool
  | .obj members => (members.lookup keyTypeMember).isSome || anyMemberDescribesKey members
  | .arr items => anyItemDescribesKey items
  | _ => false

def anyItemDescribesKey : List Json → Bool
  | [] => false
  | v :: rest => describesKey v || anyItemDescribesKey rest

def anyMemberDescribesKey : List (String × Json) → Bool
  | [] => false
  | (_, v) :: rest => describesKey v || anyMemberDescribesKey rest
end

def isDescription (bytes : Bytes) : Bool :=
  match Encoding.decode bytes with
  | .error _ => false
  | .ok text =>
    match Json.read text with
    | .error _ => false
    | .ok value => describesKey value

def checkKey (key : String) : Except KeyFault String :=
  if key.isEmpty then .error .empty
  else if isArmoured key.toList || isShellKey key.toList then .error .asymmetric
  else if isDescription (Utf8.encode key) then .error .description
  else .ok key

end AccessDirectory.Token
