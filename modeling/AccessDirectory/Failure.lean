import AccessDirectory.Clock
import AccessDirectory.Kind

/-! What can go wrong. A failure is its cause; its class and its text follow from the cause. Storage and
listeners that are not part of the library fail with a class and a text of their own. -/

namespace AccessDirectory

/-- The classes of failures. The first six are reported to clients as they are. -/
inductive FailureClass
  | directory
  | client
  | unsupported
  | conflict
  | notFound
  | unauthorized
  | runtime
  | value
  | lookup
  | memberAccess
  | typeMismatch
  | system
  | notADirectory
  | isADirectory
  | overflow
  | encoding
  | hostName
  | invalidKey
  | tokenValidation
  | repetition
deriving DecidableEq, Repr

namespace FailureClass

def label : FailureClass → String
  | directory => "DirectoryError"
  | client => "ClientError"
  | unsupported => "UnsupportedOperationError"
  | conflict => "ObjectExistsError"
  | notFound => "NotFoundError"
  | unauthorized => "UnauthorizedError"
  | runtime => "RuntimeError"
  | value => "ValueError"
  | lookup => "LookupError"
  | memberAccess => "AttributeError"
  | typeMismatch => "TypeError"
  | system => "OSError"
  | notADirectory => "NotADirectoryError"
  | isADirectory => "IsADirectoryError"
  | overflow => "OverflowError"
  | encoding => "UnicodeDecodeError"
  | hostName => "UnicodeError"
  | invalidKey => "InvalidKeyError"
  | tokenValidation => "TokenValidationError"
  | repetition => "SyntaxError"

def foreign : List FailureClass :=
  [directory, client, unsupported, conflict, notFound, unauthorized, runtime, value, system]

def ofLabel? (s : String) : Option FailureClass := foreign.find? (·.label = s)

/-- The status and the type with which a failure is reported to clients, if they may see it. -/
def report? : FailureClass → Option (Nat × String)
  | directory => some (500, "INTERNAL_ERROR")
  | client => some (400, "BAD_REQUEST")
  | unsupported => some (400, "UNSUPPORTED")
  | conflict => some (409, "CONFLICT")
  | notFound => some (404, "NOT_FOUND")
  | unauthorized => some (401, "UNAUTHORIZED")
  | _ => none

end FailureClass

inductive Component
  | sessions
  | listeners
deriving DecidableEq, Repr

inductive Failure
  /-- A failure of storage or of a listener. -/
  | foreign (kind : FailureClass) (text : String)
  | identifierRequired
  | alreadyExists (identifier : String)
  | notFound (identifier : Option String)
  | noDirectory (kind : Kind)
  | noKind (recordType : String)
  | unknownPermission (shown family : String)
  | nothingToCreate
  | nothingToUpdate
  | notAnObject
  | textRequired (field : String)
  | textExpected (field : String)
  | mappingExpected (field : String)
  | patchesNotAList
  | patchNotAnObject
  | patchPathMissing
  | patchPathUnrooted
  | unknownVerb (shown : String)
  | removalOnly (verb : String)
  | invalidFilter
  | authorizationMissing
  | notABearer
  | bearerEmpty
  | tokenRejected (reason : String)
  | sessionEnded
  | absent (component : Component)
  | invalidKey (reason : String)
  /-- An instant has no date. -/
  | beyondCalendar
  /-- A handler is given a value that it has no name for. -/
  | unknownArgument (handler name : String)
deriving DecidableEq, Repr

namespace Failure

def kind : Failure → FailureClass
  | foreign kind _ => kind
  | identifierRequired | nothingToCreate | nothingToUpdate | notAnObject | textRequired _
  | textExpected _ | mappingExpected _ | patchesNotAList | patchNotAnObject | patchPathMissing
  | patchPathUnrooted | invalidFilter => .client
  | unknownVerb _ | removalOnly _ => .unsupported
  | alreadyExists _ => .conflict
  | notFound _ => .notFound
  | noDirectory _ => .lookup
  | noKind _ | unknownPermission _ _ => .value
  | authorizationMissing | notABearer | bearerEmpty | tokenRejected _ | sessionEnded =>
    .unauthorized
  | absent _ => .memberAccess
  | invalidKey _ => .invalidKey
  | beyondCalendar => .overflow
  | unknownArgument _ _ => .typeMismatch

def inQuotes (s : String) : String := "\"" ++ s ++ "\""

def message : Failure → String
  | foreign _ text => text
  | identifierRequired => "An identifier is required for objects in this directory."
  | alreadyExists identifier => "Object " ++ inQuotes identifier ++ " already exists."
  | notFound identifier => "Not found: " ++ inQuotes (identifier.getD "None")
  | noDirectory kind => "No " ++ kind.name ++ " directory in this context"
  | noKind recordType => "No directory type for objects of type " ++ recordType
  | unknownPermission shown family => shown ++ " is not a valid " ++ family
  | nothingToCreate => "Data must be submitted when creating objects."
  | nothingToUpdate => "Data must be submitted when updating objects."
  | notAnObject => "Objects must be submitted as a JSON object."
  | textRequired field => inQuotes field ++ " is required and must be a non-empty string."
  | textExpected field => inQuotes field ++ " must be a string."
  | mappingExpected field => inQuotes field ++ " must be an object with string values."
  | patchesNotAList => "Patches must be submitted as a JSON array."
  | patchNotAnObject => "Each patch must be a JSON object."
  | patchPathMissing => "Each patch must have a string \"path\"."
  | patchPathUnrooted => "Patch paths must start with \"/\"."
  | unknownVerb shown => "Unsupported patch operation: " ++ inQuotes shown
  | removalOnly verb =>
    "Only the \"remove\" operation is supported (got " ++ inQuotes verb ++ ")."
  | invalidFilter =>
    "Invalid permission filter. Allowed values: READ, UPDATE, DELETE, ADMINISTER."
  | authorizationMissing =>
    "Authorization header missing. Provide 'Authorization: Bearer <token>'."
  | notABearer => "Authorization header must use Bearer token scheme."
  | bearerEmpty => "Bearer token is empty."
  | tokenRejected reason => reason
  | sessionEnded => "Session is no longer valid."
  | absent .sessions => "'NoneType' object has no attribute 'get'"
  | absent .listeners => "'NoneType' object has no attribute 'handle_event'"
  | invalidKey reason => reason
  | beyondCalendar => Clock.rangeText
  | unknownArgument handler name =>
    handler ++ "() got an unexpected keyword argument '" ++ name ++ "'"

end Failure

end AccessDirectory
