import AccessDirectory.Demo
import AccessDirectory.Http.Application

/-! How an application starts: from its settings, with the sessions and listeners that it is given or
with its own. -/

namespace AccessDirectory.Http

inductive StartFault
  | unknownLevel (name : String)
  | basePathNotRooted (base : String)
  /-- The base path is no pattern. -/
  | basePath (base : String) (fault : PatternFault)
deriving DecidableEq, Repr

namespace StartFault

def kind : StartFault → FailureClass
  | basePath _ (.unknownKind _) => .lookup
  | basePath _ .arguments => .typeMismatch
  | basePath _ .infinite => .overflow
  | basePath _ (.repeatedName _) => .repetition
  | _ => .value

def message : StartFault → String
  | unknownLevel name => "Unknown level: " ++ Text.Quoted.quoted name
  | basePathNotRooted base => "URL rule '" ++ base ++ "/<collection>' must start with a slash."
  | basePath base .malformed =>
    "malformed url rule: " ++ Text.Quoted.quoted (base ++ "/<collection>")
  | basePath _ (.unknownKind name) =>
    "the converter " ++ Text.Quoted.quoted name ++ " does not exist"
  | basePath _ (.strayText text) => "Cannot parse converter argument '" ++ text ++ "'"
  | basePath _ .arguments => "the arguments do not fit the converter"
  | basePath _ (.notInteger given) => Text.notIntegerText given
  | basePath _ .infinite => "cannot convert float infinity to integer"
  | basePath _ .notANumber => "cannot convert float NaN to integer"
  | basePath _ (.reservedName name) => "identifier field can't represent '" ++ name ++ "' constant"
  | basePath _ (.repeatedName name) =>
    "duplicate argument '" ++ name ++ "' in function definition (<werkzeug routing>, line 1)"

end StartFault

/-- The severities by the names that the log accepts. Without a threshold of its own, the log keeps
warnings. -/
def levelNames : List (String × Severity) :=
  [("CRITICAL", .critical), ("FATAL", .critical), ("ERROR", .error), ("WARN", .warning),
    ("WARNING", .warning), ("INFO", .info), ("DEBUG", .debug), ("NOTSET", .warning)]

structure Hosted where
  sessions : Sessions := ∅
  directories : Directories := {}
  declared : Kind → List String := fun _ => []

def Hosted.own (settings : Settings) : Hosted :=
  if settings.demoMode then
    { sessions := Demo.sessions, directories := Demo.directories, declared := Demo.declared }
  else {}

def ownListeners (settings : Settings) : List Listener :=
  .logger :: if settings.auditEnabled then [.auditor settings.auditKey] else []

namespace Application

def start (settings : Settings) (hosted : Option Hosted) (listeners : Option (List Listener))
    (now : Clock.Instant) : Except StartFault Application :=
  match levelNames.lookup settings.logLevel with
  | none => .error (.unknownLevel settings.logLevel)
  | some threshold =>
    let base := String.ofList (settings.basePath.toList.reverse.dropWhile (· = '/')).reverse
    if !base.isEmpty && !("/".toList.isPrefixOf base.toList) then
      .error (.basePathNotRooted base)
    else match basePattern base with
      | .error fault => .error (.basePath (String.ofList (mergeSlashes base.toList)) fault)
      | .ok pattern =>
        let hosted := hosted.getD (.own settings)
        .ok {
          settings
          base := pattern
          sessions := some hosted.sessions
          world := {
            directories := hosted.directories
            declared := hosted.declared
            listeners := listeners.getD (ownListeners settings)
            given := { now, threshold } } }

def withoutSessions (a : Application) : Application := { a with sessions := none }

def withoutListeners (a : Application) : Application :=
  { a with
    world := { a.world with listeners := [.failing .always (.absent .listeners)] }
    hasListeners := false }

def endSession (a : Application) (username : String) : Application :=
  { a with sessions := a.sessions.map (·.erase username) }

end Application

end AccessDirectory.Http
