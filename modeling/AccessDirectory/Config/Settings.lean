import AccessDirectory.Config.FilePath
import AccessDirectory.Config.Secret
import AccessDirectory.Failure
import AccessDirectory.Log
import AccessDirectory.Text.Digit
import AccessDirectory.Text.LetterCase
import AccessDirectory.Text.Quoted

/-! The settings of the service, from the environment and the secret files. The key that signs tokens
must be given, except in demo mode, where a fresh one is made up and left in the environment. -/

namespace AccessDirectory

structure Settings where
  demoMode : Bool
  secretKey : String
  secretKeyGenerated : Bool := false
  /-- The path under which the collections are found. -/
  basePath : String := "/api"
  logLevel : String := "INFO"
  maxBodySize : Int := 65536
  /-- In seconds. -/
  tokenLifetime : Int := 3600
  auditEnabled : Bool := true
  auditDirectory : FilePath := .ofText ".runtime/audit"
  auditKey : String := ""
deriving DecidableEq, Repr

def auditFileName : String := "directory-events.jsonl"

def Settings.auditFile (s : Settings) : FilePath := s.auditDirectory.child auditFileName

inductive SettingFault
  | keyMissing
  /-- The file of a secret holds no text. -/
  | secretGarbled (name : String)
  | logLevel (given : String)
  | notInteger (name given : String)
  | notPositive (name : String) (value : Int)
deriving DecidableEq, Repr

namespace SettingFault

def kind : SettingFault → FailureClass
  | keyMissing => .runtime
  | secretGarbled _ => .encoding
  | logLevel _ | notInteger _ _ | notPositive _ _ => .value

def message : SettingFault → String
  | keyMissing => "FLASK_SECRET_KEY not found in /run/secrets or environment"
  | secretGarbled name => "the file of the secret " ++ name ++ " is not encoded in UTF-8"
  | logLevel given =>
    "LOG_LEVEL must be one of ['CRITICAL', 'DEBUG', 'ERROR', 'INFO', 'WARNING'], got " ++
      Text.Quoted.quoted given
  | notInteger name given =>
    "Environment variable " ++ name ++ " must be an integer, got " ++ Text.Quoted.quoted given
  | notPositive name value =>
    "Environment variable " ++ name ++ " must be positive, got " ++ toString value

end SettingFault

namespace Settings

def readFlag (env : Environment) (name : String) (default : Bool) : Bool :=
  match env.get? name with
  | none => default
  | some s => Text.lower (Text.strip s) = "true"

def readPositive (env : Environment) (name : String) (default : Int) : Except SettingFault Int :=
  match env.get? name with
  | none => .ok default
  | some s =>
    if Text.isBlankText s then .ok default
    else match Text.readInt? s with
      | none => .error (.notInteger name s)
      | some n => if n ≤ 0 then .error (.notPositive name n) else .ok n

def readLogLevel (env : Environment) : Except SettingFault String :=
  let level := Text.upper (Text.strip ((env.get? "LOG_LEVEL").getD "INFO"))
  if (Severity.ofName? level).isSome then .ok level else .error (.logLevel level)

def basePathOf (given : String) : String :=
  String.ofList ('/' :: Text.trimBy (· = '/') (Text.strip given).toList)

def demoAuditKey : String := "demo-audit-signing-key-change-in-production"

/-- A secret from its file or its variable. A variable does not make up for a file that holds no text. -/
def readSecret (files : SecretFiles) (env : Environment) (name variableName : String) :
    Except SettingFault (Option String) :=
  if files.get? name = some .garbled then .error (.secretGarbled name)
  else .ok (loadSecret files env name (some variableName))

def readAuditKey (files : SecretFiles) (env : Environment) (demoMode : Bool) :
    Except SettingFault String :=
  (readSecret files env "audit_log_signing_key" "AUDIT_LOG_SIGNING_KEY").map fun
    | some key => key
    | none => if demoMode then (env.get? "AUDIT_LOG_SIGNING_KEY_DEMO").getD demoAuditKey else ""

def keyVariable : String := "FLASK_SECRET_KEY"

def variableNames : List String :=
  ["DEMO_MODE", keyVariable, "AUDIT_LOG_SIGNING_KEY", "AUDIT_LOG_SIGNING_KEY_DEMO", "LOG_LEVEL",
    "API_PREFIX", "JSON_MAX_SIZE_BYTES", "TOKEN_LIFETIME_SECONDS", "AUDIT_LOG_ENABLED",
    "AUDIT_LOG_DIR"]

def secretNames : List String := ["flask_secret_key", "audit_log_signing_key"]

def loadRest (files : SecretFiles) (env : Environment) (demoMode : Bool) (secretKey : String)
    (generated : Bool) : Except SettingFault Settings := do
  let auditKey ← readAuditKey files env demoMode
  let logLevel ← readLogLevel env
  let maxBodySize ← readPositive env "JSON_MAX_SIZE_BYTES" 65536
  let tokenLifetime ← readPositive env "TOKEN_LIFETIME_SECONDS" 3600
  return {
    demoMode, secretKey, secretKeyGenerated := generated
    basePath := basePathOf ((env.get? "API_PREFIX").getD "/api")
    logLevel, maxBodySize, tokenLifetime
    auditEnabled := readFlag env "AUDIT_LOG_ENABLED" true
    auditDirectory := .ofText ((env.get? "AUDIT_LOG_DIR").getD ".runtime/audit")
    auditKey }

/-- Loads the settings. The second result is the environment afterwards; `fresh` is the key to be used
if a key must be made up. -/
def load (files : SecretFiles) (env : Environment) (fresh : String) :
    Except SettingFault Settings × Environment :=
  let demoMode := readFlag env "DEMO_MODE" false
  match readSecret files env "flask_secret_key" keyVariable with
  | .error fault => (.error fault, env)
  | .ok (some key) => (loadRest files env demoMode key false, env)
  | .ok none =>
    if demoMode then
      let env := env.put keyVariable fresh
      (loadRest files env demoMode fresh true, env)
    else (.error .keyMissing, env)

end Settings

end AccessDirectory
