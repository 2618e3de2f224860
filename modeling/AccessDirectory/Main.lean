import AccessDirectory.CommandLine.Plan
import Std.Time.DateTime.Timestamp

/-! The tool for operators: reads arguments, environment and files, and does as planned. -/

namespace AccessDirectory.CommandLine

def usage : String :=
  "usage: access-directory issue-token --username NAME [--lifetime SECONDS]\n" ++
    "       access-directory verify-audit [--log-file PATH]\n"

def readState (path : String) : IO (FileState Text.Bytes) := do
  let place := (← IO.currentDir) / path
  if !(← place.pathExists) then return .missing
  if ← place.isDir then return .directory
  return .file (← IO.FS.readBinFile place).toList

def readTrail (path : FilePath) : IO (Except PathFault (FileState Text.Bytes)) := do
  if path.isTooLong then return .error .tooLong
  return .ok (← readState path.text)

def readEnvironment : IO Environment := do
  let values ← Settings.variableNames.filterMapM fun name => do
    return (← IO.getEnv name).map (name, ·)
  return .ofList values

def readSecret (name : String) : IO (Option SecretFile) := do
  try
    match ← readState (secretsPath ++ "/" ++ name) with
    | .missing => return none
    | .directory => return some .directory
    | .file contents =>
      match Text.Utf8.decode? contents with
      | some text => return some (.text text)
      | none => return some .garbled
  catch _ => return some .unreadable

def readSecrets : IO SecretFiles := do
  let files ← Settings.secretNames.filterMapM fun name => do
    return (← readSecret name).map (name, ·)
  return .ofList files

def makeKey : IO String := do
  let bytes ← IO.getRandomBytes 48
  return String.ofList (Text.Base64Url.encode bytes.toList)

def readClock : IO Clock.Instant := do
  let now ← Std.Time.Timestamp.now
  return now.toNanosecondsSinceUnixEpoch.val / 1000

def finish (outcome : Outcome) : IO UInt32 := do
  (← IO.getStdout).putStr outcome.output
  (← IO.getStderr).putStr outcome.errors
  return UInt32.ofNat outcome.exit

def fail (fault : Fault) : IO UInt32 := do
  (← IO.getStderr).putStrLn (fault.kind.label ++ ": " ++ fault.message)
  return 1

def execute (request : Request) : IO UInt32 := do
  match plan request (← readSecrets) (← readEnvironment) (← makeKey) (← readClock) with
  | .error fault => fail fault
  | .ok (.finish outcome) => finish outcome
  | .ok (.verify path key) =>
    match conclude key (← readTrail path) with
    | .ok outcome => finish outcome
    | .error fault => fail fault

end AccessDirectory.CommandLine

open AccessDirectory.CommandLine in
def main (arguments : List String) : IO UInt32 := do
  match read arguments with
  | .error refusal =>
    IO.print usage
    return UInt32.ofNat refusal.exit
  | .ok request => execute request
