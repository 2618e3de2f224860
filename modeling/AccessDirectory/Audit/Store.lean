import AccessDirectory.Audit.Trail

/-! The file that keeps an audit trail. It and its directory, which are made when the first record is
written, are open to their owner alone. -/

namespace AccessDirectory.Audit

def fileMode : Nat := 0o600
def directoryMode : Nat := 0o700

inductive Store
  | vacant
  /-- A regular file stands where a directory should be. -/
  | blocked
  | file (contents : Text.Bytes)
deriving DecidableEq, Repr

namespace Store

def append (bytes : Text.Bytes) : Store → Except FailureClass Store
  | vacant => .ok (file bytes)
  | blocked => .error .notADirectory
  | file contents => .ok (file (contents ++ bytes))

def appendLine (s : Store) (line : String) : Except FailureClass Store :=
  s.append (Text.Utf8.encode line ++ [0x0a])

/-- Writes the line of an event. Nothing is written at an instant that has no date. -/
def record (key : String) (now : Clock.Instant) (e : Event) (s : Store) :
    Except FailureClass Store :=
  if Clock.inRange now then s.appendLine (line key now e) else .error Failure.beyondCalendar.kind

def verify (key : String) : Store → Except Fault (Nat × Nat)
  | file contents => verifyBytes key contents
  | vacant | blocked => .ok (0, 0)

end Store

end AccessDirectory.Audit
