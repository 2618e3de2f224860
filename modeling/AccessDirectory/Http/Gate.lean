import AccessDirectory.Event
import AccessDirectory.Hash.Sha256
import AccessDirectory.Text.Hex
import AccessDirectory.Token.Validity

/-! The gate before the collections: a request must bear a token of a user who has a session. The log
never shows a token, only the start of its hash. -/

namespace AccessDirectory.Http
open Text

def bearerToken (authorization : Option String) : Except Failure String :=
  let given := authorization.getD ""
  if given.isEmpty then .error .authorizationMissing
  else match Token.after? "Bearer ".toList given.toList with
    | none => .error .notABearer
    | some rest =>
      let token := strip (String.ofList rest)
      if token.isEmpty then .error .bearerEmpty else .ok token

def tokenHash (token : String) : String :=
  String.ofList ((Hex.ofBytes (Hash.sha256 (Utf8.encode token))).toList.take 12)

def rejectedLine (token path reason : String) : LogLine :=
  ⟨.info, "Rejected token | token_hash=" ++ tokenHash token ++ " | path=" ++ path ++
    " | reason=" ++ reason⟩

def strangerLine (token path : String) : LogLine :=
  ⟨.info, "No session for token | token_hash=" ++ tokenHash token ++ " | path=" ++ path⟩

def sessionOf (sessions : Option Sessions) (path token subject : String) :
    Except Failure Session × Option LogLine :=
  match sessions with
  | none => (.error (.absent .sessions), none)
  | some sessions =>
    match sessions.get? subject with
    | some session => (.ok session, none)
    | none => (.error .sessionEnded, some (strangerLine token path))

def authenticate (key : String) (sessions : Option Sessions) (now : Clock.Instant)
    (path : String) (authorization : Option String) : Except Failure Session × Option LogLine :=
  match bearerToken authorization with
  | .error f => (.error f, none)
  | .ok token =>
    match Token.validate token key now with
    | .error (.unfitKey fault) => (.error (.invalidKey fault.message), none)
    | .error .beyondCalendar => (.error .beyondCalendar, none)
    | .error (.rejected r) =>
      (.error (.tokenRejected r.message), some (rejectedLine token path r.message))
    | .ok validated => sessionOf sessions path token validated.subject

end AccessDirectory.Http
