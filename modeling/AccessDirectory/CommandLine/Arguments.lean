import AccessDirectory.Config.FilePath
import AccessDirectory.Text.Digit
import AccessDirectory.Table

/-! The arguments of the command line. Options may be shortened as long as one option remains, and take
their value from the next argument or from behind an equals sign. What looks like a negative number or
has a blank in it is a value and no option. After two lone hyphens there are only values. -/

namespace AccessDirectory.CommandLine

inductive Shape
  | word
  | separator
  | unknown
  | help
  /-- A use of the help option that is an error. -/
  | brokenHelp
  | option (name : String) (value : Option String)
deriving DecidableEq, Repr

def isDigit (c : Char) : Bool := (Text.digitValue? c).isSome

def isUnsigned (cs : List Char) : Bool :=
  let body := if cs.getLast? = some '\n' then cs.dropLast else cs
  let fraction := body.dropWhile isDigit
  match fraction with
  | [] => !body.isEmpty
  | '.' :: digits => !digits.isEmpty && digits.all isDigit
  | _ => false

def cutValue (cs : List Char) : List Char × Option (List Char) :=
  match cs.dropWhile (· ≠ '=') with
  | [] => (cs, none)
  | _ :: value => (cs.takeWhile (· ≠ '='), some value)

def helpName : List Char := "--help".toList

/-- The option that a full or shortened name leads to; the failure is a name that leads to several. -/
def resolve (options : List (List Char)) (name : List Char) : Except Unit (Option (List Char)) :=
  if options.contains name then .ok (some name)
  else match options.filter (name.isPrefixOf ·) with
    | [] => .ok none
    | [option] => .ok (some option)
    | _ => .error ()

def longShape (name : List Char) (value : Option (List Char)) : Shape :=
  if name = helpName then (if value.isNone then .help else .brokenHelp)
  else .option (String.ofList name) (value.map String.ofList)

def strangeShape (cs : List Char) : Shape :=
  if isUnsigned (cs.drop 1) || cs.contains ' ' then .word else .unknown

def shortHelpShape (rest : List Char) : Shape :=
  match rest.dropWhile (· = 'h') with
  | [] => .help
  | c :: _ => if c = '-' || c = '=' then .brokenHelp else .help

def shapeOf (options : List (List Char)) (argument : String) : Except Unit Shape :=
  match argument.toList with
  | '-' :: '-' :: rest => do
    let (name, value) := cutValue ('-' :: '-' :: rest)
    match ← resolve (helpName :: options) name with
    | some option => return longShape option value
    | none => return strangeShape argument.toList
  | '-' :: 'h' :: rest => .ok (shortHelpShape rest)
  | '-' :: c :: rest => .ok (strangeShape ('-' :: c :: rest))
  | _ => .ok .word

def shapes (options : List (List Char)) : List String → Except Unit (List (Shape × String))
  | [] => .ok []
  | argument :: rest =>
    if argument = "--" then .ok ((.separator, argument) :: rest.map (.word, ·))
    else do
      let shape ← shapeOf options argument
      return (shape, argument) :: (← shapes options rest)

inductive Request
  | issueToken (username : String) (lifetime : Option Int)
  | verifyAudit (path : Option FilePath)
deriving DecidableEq, Repr

inductive Refusal
  | help
  | usage
deriving DecidableEq, Repr

def Refusal.exit : Refusal → Nat
  | help => 0
  | usage => 2

/-- The values of the options of a command. The last of several values counts; an argument that has no
place is an error, but only if the command line does not ask for help. -/
def optionValues (accepts : String → String → Bool) :
    (stray : Bool) → Table String → List (Shape × String) → Except Refusal (Table String)
  | stray, values, [] => if stray then .error .usage else .ok values
  | stray, values, (shape, _) :: rest =>
    match shape with
    | .help => .error .help
    | .brokenHelp => .error .usage
    | .word | .separator | .unknown => optionValues accepts true values rest
    | .option name (some value) =>
      if accepts name value then optionValues accepts stray (values.put name value) rest
      else .error .usage
    | .option name none =>
      match rest with
      | (.word, value) :: rest =>
        if accepts name value then optionValues accepts stray (values.put name value) rest
        else .error .usage
      | _ => .error .usage

def readOptions (options : List String) (accepts : String → String → Bool) (stray : Bool)
    (arguments : List String) : Except Refusal (Table String) :=
  match shapes (options.map String.toList) arguments with
  | .error () => .error .usage
  | .ok shaped => optionValues accepts stray ∅ shaped

def usernameOption : String := "--username"
def lifetimeOption : String := "--lifetime"
def logFileOption : String := "--log-file"

def acceptsValue (name value : String) : Bool :=
  name ≠ lifetimeOption || (Text.readInt? value).isSome

def readCommand (command : String) (stray : Bool) (arguments : List String) :
    Except Refusal Request :=
  if command = "issue-token" then do
    let values ← readOptions [usernameOption, lifetimeOption] acceptsValue stray arguments
    match values.get? usernameOption with
    | none => .error .usage
    | some username =>
      return .issueToken username ((values.get? lifetimeOption).bind Text.readInt?)
  else if command = "verify-audit" then do
    let values ← readOptions [logFileOption] acceptsValue stray arguments
    return .verifyAudit ((values.get? logFileOption).map FilePath.ofText)
  else .error .usage

def readShaped : (stray : Bool) → List (Shape × String) → Except Refusal Request
  | _, [] => .error .usage
  | stray, (shape, argument) :: rest =>
    match shape with
    | .word => readCommand argument stray (rest.map (·.2))
    | .unknown | .option _ _ => readShaped true rest
    | .help => .error .help
    | .brokenHelp | .separator => .error .usage

def read (arguments : List String) : Except Refusal Request :=
  match shapes [] arguments with
  | .error () => .error .usage
  | .ok shaped => readShaped false shaped

end AccessDirectory.CommandLine
