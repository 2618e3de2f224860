import AccessDirectory.Audit.Record
import AccessDirectory.Json.Reader
import AccessDirectory.Text.Line

/-! Verification of an audit trail. Lines that hold only blanks are skipped; the others are counted,
and those whose signature is right are counted again. A line that is no JSON is merely not valid. -/

namespace AccessDirectory.Audit
open Text

inductive Fault
  /-- A record is an array. -/
  | arrayRecord
  /-- A record is neither an array nor an object. -/
  | scalarRecord
  /-- A signature cannot be compared. -/
  | signatureUnfit
  | notUtf8
deriving DecidableEq, Repr

def Fault.kind : Fault → FailureClass
  | arrayRecord | signatureUnfit => .typeMismatch
  | scalarRecord => .memberAccess
  | notUtf8 => .encoding

def Fault.message : Fault → String
  | arrayRecord => "an audit record is an array"
  | scalarRecord => "an audit record is no object"
  | signatureUnfit => "a signature is no ASCII text"
  | notUtf8 => "the audit trail is not encoded in UTF-8"

def unsigned (members : Fields) : Fields := members.filter (·.1 ≠ "signature")

def isAscii (s : String) : Bool := s.toList.all (·.toNat < 0x80)

def matchesRecord (key : String) (members : Fields) (signature : Json) : Except Fault Bool :=
  let expected := sign key (.obj (unsigned members))
  if expected.isEmpty then .ok false
  else match signature with
    | .str s => if isAscii s then .ok (s = expected) else .error .signatureUnfit
    | _ => .error .signatureUnfit

def checkRecord (key : String) : Json → Except Fault Bool
  | .obj members =>
    let signature := (members.lookup "signature").getD (.str "")
    if signature.isTruthy then matchesRecord key members signature else .ok false
  | .arr _ => .error .arrayRecord
  | _ => .error .scalarRecord

def checkLine (key : String) (line : List Char) : Except Fault Bool :=
  match Json.readUnmarked line with
  | .error _ => .ok false
  | .ok record => checkRecord key record

def tally (key : String) : List (List Char) → Except Fault (Nat × Nat)
  | [] => .ok (0, 0)
  | line :: rest =>
    if line.all isBlank then tally key rest
    else do
      let valid ← checkLine key line
      let (total, right) ← tally key rest
      return (total + 1, if valid then right + 1 else right)

def verify (key : String) (text : List Char) : Except Fault (Nat × Nat) :=
  tally (strip key) (splitLines (unifyEndings text))

/-- The lines that have ended when a text breaks off. A carriage return there may be half an ending. -/
def endedLines (text : List Char) : List (List Char) :=
  let certain := if text.getLast? = some '\r' then text.dropLast else text
  (splitLines (unifyEndings certain)).filter (·.getLast? = some '\n')

def portionSize : Nat := 8192

/-- The number of bytes in the portions that are read before the one in which a flaw shows. -/
def soundSize (contents : Bytes) : Nat :=
  match Utf8.Piece.flawPlace? 0 (Utf8.pieces contents) with
  | some place => place / portionSize * portionSize
  | none => contents.length

/-- Verifies a trail in bytes. Lines are judged as they are read, so that those which end in earlier
portions come before a flaw in the encoding. -/
def verifyBytes (key : String) (contents : Bytes) : Except Fault (Nat × Nat) :=
  match Utf8.decode? contents with
  | some text => verify key text.toList
  | none => do
    let early := Utf8.Piece.charsWithin (soundSize contents) (Utf8.pieces contents)
    let _ ← tally (strip key) (endedLines early)
    throw .notUtf8

end AccessDirectory.Audit
