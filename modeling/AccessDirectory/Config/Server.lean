import AccessDirectory.Config.Secret
import AccessDirectory.Log
import AccessDirectory.Text.Digit
import AccessDirectory.Text.LetterCase

/-! The process that serves the application. As sessions and demo directories live in its memory, there
is one process with several threads. When it starts, it tells where the key will come from. -/

namespace AccessDirectory

structure Server where
  application : String := "directory_api.flask_app:app"
  bind : String
  workers : Nat := 1
  threads : Int
  accessLog : String := "-"
  errorLog : String := "-"
  logLevel : String
deriving DecidableEq, Repr

namespace Server

def load (env : Environment) : Except String Server :=
  let given := (env.get? "GUNICORN_THREADS").getD "8"
  match Text.readInt? given with
  | none => .error given
  | some threads =>
    .ok {
      bind := (env.get? "GUNICORN_BIND").getD "0.0.0.0:8000"
      threads
      logLevel := Text.lower ((env.get? "LOG_LEVEL").getD "info") }

def greeting (files : Option SecretFiles) (env : Environment) : LogLine :=
  if Text.lower ((env.get? "DEMO_MODE").getD "false") = "true" then
    ⟨.warning, "DEMO_MODE=true: demo sessions and generated secrets in use"⟩
  else if ((files.bind (·.get? "flask_secret_key")).map SecretFile.isFile).getD false then
    ⟨.info, "Using FLASK_SECRET_KEY from " ++ secretsPath⟩
  else if (nonEmpty? (env.get? "FLASK_SECRET_KEY")).isSome then
    ⟨.info, "Using FLASK_SECRET_KEY from environment"⟩
  else
    ⟨.error, "FLASK_SECRET_KEY missing from /run/secrets and environment; startup will fail"⟩

end Server

end AccessDirectory
