import AccessDirectory.Failure
import AccessDirectory.Http.Message
import AccessDirectory.Log

/-! Responses to what goes wrong. Failures of the service that concern the client are told as they are.
Of all others the client learns only that something failed, and the log keeps the text. -/

namespace AccessDirectory.Http

inductive Problem
  /-- An operation failed. -/
  | failed (failure : Failure)
  /-- A request is given up with a status; the description may stand for the usual one. -/
  | aborted (status : Int) (description : Option String)
deriving DecidableEq, Repr

def errorJson (status : Nat) (type message : String) : Json :=
  .obj [("message", .str message), ("type", .str type), ("statusCode", .int status)]

def errorResponse (status : Nat) (type message : String) : Response :=
  { status, content := .json (errorJson status type message) }

def internalType : String := "INTERNAL_ERROR"

def opaqueResponse : Response := errorResponse 500 internalType "An unexpected error occurred"

def abortStatuses : List Int :=
  [400, 401, 403, 404, 405, 406, 408, 409, 410, 411, 412, 413, 414, 415, 416, 417, 418, 421, 422,
    423, 424, 428, 429, 431, 451, 500, 501, 502, 503, 504, 505]

def badRequestText : String :=
  "The browser (or proxy) sent a request that this server could not understand."

def serverErrorText : String :=
  "The server encountered an internal error and was unable to complete your request. Either the server is overloaded or there is an error in the application."

def respondFailure (f : Failure) : Response × Option LogLine :=
  match f.kind.report? with
  | some (status, type) =>
    (errorResponse status type f.message,
      if 500 ≤ status then some ⟨.error, "Directory error: " ++ f.message⟩ else none)
  | none => (opaqueResponse, some ⟨.error, "Unhandled exception: " ++ f.message⟩)

def limitText : Option Int → String
  | some n => toString n
  | none => "None"

def respondAborted (limit : Option Int) (status : Int) (description : Option String) :
    Response × Option LogLine :=
  if status = 400 then
    let text := description.getD badRequestText
    (errorResponse 400 "BAD_REQUEST" (if text.isEmpty then "Bad Request" else text), none)
  else if status = 404 then (errorResponse 404 "NOT_FOUND" "Resource not found", none)
  else if status = 405 then (errorResponse 405 "METHOD_NOT_ALLOWED" "Method not allowed", none)
  else if status = 413 then
    (errorResponse 413 "REQUEST_TOO_LARGE"
      ("Request payload exceeds maximum allowed size (" ++ limitText limit ++ " bytes)"), none)
  else if status = 500 then
    (opaqueResponse, some ⟨.error,
      "Internal error: 500 Internal Server Error: " ++ description.getD serverErrorText⟩)
  else if abortStatuses.contains status then ({ status := status.toNat, content := .page }, none)
  else respondFailure (.foreign .lookup ("no exception for " ++ toString status))

def Problem.respond (limit : Option Int) : Problem → Response × Option LogLine
  | failed f => respondFailure f
  | aborted status description => respondAborted limit status description

end AccessDirectory.Http
