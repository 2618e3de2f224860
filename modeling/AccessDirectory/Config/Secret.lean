import AccessDirectory.Config.FileTree
import AccessDirectory.Table
import AccessDirectory.Text.Blank
import AccessDirectory.Text.Line

/-! Secrets are read from files that the host provides, one for each secret, or else from environment
variables. A file that holds only blanks, cannot be read or is no file provides nothing. One whose bytes are
no text provides nothing either, and keeps settings from being loaded. -/

namespace AccessDirectory

abbrev Environment := Table String

inductive SecretFile
  | directory
  | unreadable
  /-- The bytes of the file are no text. -/
  | garbled
  | text (contents : String)
deriving DecidableEq, Repr

abbrev SecretFiles := Table SecretFile

def secretsPath : String := "/run/secrets"

def secretsDirectory : FilePath := .ofText secretsPath

def nonEmpty? (value : Option String) : Option String := value.filter (!·.isEmpty)

def SecretFile.secret? : SecretFile → Option String
  | text contents =>
    nonEmpty? (some (Text.strip (String.ofList (Text.unifyEndings contents.toList))))
  | directory | unreadable | garbled => none

def SecretFile.isFile : SecretFile → Bool
  | directory => false
  | unreadable | garbled | text _ => true

def chooseSecret (file : Option SecretFile) (env : Environment) (variableName : Option String) :
    Option String :=
  (file.bind SecretFile.secret?) <|> nonEmpty? (variableName.bind env.get?)

def loadSecret (files : SecretFiles) (env : Environment) (name : String)
    (variableName : Option String) : Option String :=
  chooseSecret (files.get? name) env variableName

def SecretFiles.tree (files : SecretFiles) : FileTree SecretFile where
  entries :=
    (secretsDirectory.names, none) :: files.entries.map fun (name, file) =>
      ((secretsDirectory.within (.ofText name)).names,
        match file with
        | .directory => none
        | file => some file)

def loadSecretAt (files : SecretFiles) (env : Environment) (path : String)
    (variableName : Option String) : Except PathFault (Option String) := do
  match ← files.tree.find [] (secretsDirectory.within (.ofText path)) with
  | .file file => return chooseSecret (some file) env variableName
  | _ => return chooseSecret none env variableName

end AccessDirectory
