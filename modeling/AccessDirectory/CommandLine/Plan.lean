import AccessDirectory.Audit.Trail
import AccessDirectory.CommandLine.Arguments
import AccessDirectory.Config.FileTree
import AccessDirectory.Config.Settings
import AccessDirectory.Token.Form

/-! What the tool for operators does: it issues tokens for the service and verifies the audit trail. A
request is first turned into a plan, which may need the contents of one file. -/

namespace AccessDirectory.CommandLine

structure Outcome where
  exit : Nat
  output : String := ""
  errors : String := ""
deriving DecidableEq, Repr

inductive Fault
  | setting (fault : SettingFault)
  | issue (fault : Token.IssueFault)
  | trail (fault : Audit.Fault)
  /-- The place of the trail cannot be reached. -/
  | trailPath (fault : PathFault)
  /-- The place of the trail holds a directory. -/
  | trailIsDirectory
deriving DecidableEq, Repr

inductive Plan
  | finish (outcome : Outcome)
  | verify (path : FilePath) (key : String)
deriving DecidableEq, Repr

def keyMissingText : String :=
  "FLASK_SECRET_KEY is not set; a generated key would not be accepted by the service. Set FLASK_SECRET_KEY to the service's key.\n"

def lifetimeOf (settings : Settings) (requested : Option Int) : Int :=
  match requested with
  | some n => if n = 0 then settings.tokenLifetime else n
  | none => settings.tokenLifetime

def planToken (settings : Settings) (now : Clock.Instant) (username : String)
    (lifetime : Option Int) : Except Fault Plan :=
  if settings.secretKeyGenerated then .ok (.finish { exit := 1, errors := keyMissingText })
  else match Token.issue username settings.secretKey (lifetimeOf settings lifetime) now with
    | .ok token => .ok (.finish { exit := 0, output := token ++ "\n" })
    | .error fault => .error (.issue fault)

/-- The plan of a request; `fresh` is the key to be used if a key must be made up. -/
def plan (request : Request) (files : SecretFiles) (env : Environment) (fresh : String)
    (now : Clock.Instant) : Except Fault Plan :=
  match (Settings.load files env fresh).1 with
  | .error fault => .error (.setting fault)
  | .ok settings =>
    match request with
    | .issueToken username lifetime => planToken settings now username lifetime
    | .verifyAudit path => .ok (.verify (path.getD settings.auditFile) settings.auditKey)

def report (counts : Nat × Nat) : Outcome where
  exit := if counts.1 = counts.2 then 0 else 1
  output :=
    "Audit log: " ++ toString counts.2 ++ "/" ++ toString counts.1 ++
      " events with valid signatures\n"

def conclude (key : String) : Except PathFault (FileState Text.Bytes) → Except Fault Outcome
  | .error fault => .error (.trailPath fault)
  | .ok .missing => .ok (report (0, 0))
  | .ok .directory => .error .trailIsDirectory
  | .ok (.file contents) =>
    match Audit.verifyBytes key contents with
    | .ok counts => .ok (report counts)
    | .error fault => .error (.trail fault)

namespace Fault

def kind : Fault → FailureClass
  | setting fault => fault.kind
  | issue .beyondCalendar => .overflow
  | issue (.unfitKey _) => .invalidKey
  | trail fault => fault.kind
  | trailPath .tooLong => .system
  | trailIsDirectory => .isADirectory

def message : Fault → String
  | setting fault => fault.message
  | issue .beyondCalendar => Clock.rangeText
  | issue (.unfitKey fault) => fault.message
  | trail fault => fault.message
  | trailPath .tooLong => "File name too long"
  | trailIsDirectory => "Is a directory"

end Fault

end AccessDirectory.CommandLine
