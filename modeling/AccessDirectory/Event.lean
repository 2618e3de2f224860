import AccessDirectory.Log
import AccessDirectory.Object

/-! Events: what was attempted on an object of a directory, by whom, and how it ended. -/

namespace AccessDirectory

inductive Action
  | add
  | get
  | update
  | remove
deriving DecidableEq, Repr

def Action.name : Action → String
  | add => "ADD"
  | get => "GET"
  | update => "UPDATE"
  | remove => "REMOVE"

structure Session where
  username : String
  self : String
  provider : String
deriving DecidableEq, Repr

abbrev Sessions := Table Session

structure Event where
  kind : Kind
  action : Action
  identifier : Option String
  /-- The object with the changes that were to be made, where there is one. -/
  object : Option kind.Object := none
  user : String
  provider : String
  failure : Option Failure := none

namespace Event

def succeeded (e : Event) : Bool := e.failure.isNone

def failed (e : Event) (f : Failure) : Event := { e with failure := some f }

@[simp] theorem succeeded_failed (e : Event) (f : Failure) : (e.failed f).succeeded = false := rfl

def severity (e : Event) : Severity := if e.succeeded then .info else .warning

def sentence (e : Event) : String :=
  e.action.name ++ " " ++ e.kind.name ++ " " ++ Failure.inQuotes (e.identifier.getD "None") ++
    " by " ++ Failure.inQuotes e.user ++
    match e.failure with
    | none => " succeeded"
    | some f => " failed: " ++ f.message

def logLine (e : Event) : LogLine := ⟨e.severity, e.sentence⟩

end Event

end AccessDirectory
