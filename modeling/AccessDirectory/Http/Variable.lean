import AccessDirectory.Http.Argument
import AccessDirectory.Text.Hex
import AccessDirectory.Text.Parts

/-! Variables in patterns of paths. A variable is of a kind, which may take arguments, and matches texts
of that kind. Of numbers, some are matched and yet not admitted. -/

namespace AccessDirectory.Http
open Text

inductive Repetition
  | times (least : Nat) (most : Option Nat)
  /-- Limits below zero mean nothing: after one character they stand in the path as they are written. -/
  | written (limits : String)
  /-- Limits against which no text can be matched. -/
  | impossible
deriving DecidableEq, Repr

namespace Repetition

def countLimit : Nat := 4294967295

def isCountable (n : Int) : Bool := n < countLimit

def between (least : Int) (most : Option Int) : Repetition :=
  if least < 0 || most.any (· < 0) then
    written ("\x7b" ++ toString least ++ "," ++ (most.map toString).getD "" ++ "\x7d")
  else if isCountable least && most.all isCountable && most.all (least ≤ ·) then
    times least.toNat (most.map Int.toNat)
  else impossible

def exactly (n : Int) : Repetition :=
  if n < 0 then written ("\x7b" ++ toString n ++ "\x7d")
  else if isCountable n then times n.toNat (some n.toNat)
  else impossible

end Repetition

structure NumberForm where
  signed : Bool := false
  /-- How many characters a number must have; what is not true allows any. -/
  size : Argument := .number (.whole 0)
  least : Argument := .nothing
  greatest : Argument := .nothing
deriving DecidableEq, Repr

inductive VariableKind
  /-- A text without slashes of an admissible length. -/
  | text (size : Repetition)
  | choice (words : List (List Char))
  /-- A text that does not start with a slash. -/
  | path
  | integer (form : NumberForm)
  | real (form : NumberForm)
  | uuid
deriving DecidableEq, Repr

inductive Verdict
  | admitted
  | refused
  /-- The text cannot be compared with what is asked. -/
  | failed
deriving DecidableEq, Repr

namespace VariableKind

def anyText : VariableKind := text (.times 1 none)

def isBroken (k : VariableKind) : Bool := k = text .impossible

def given? (arguments : Table Argument) (name : String) : Option Argument :=
  (arguments.get? name).filter (· ≠ .nothing)

def textOf (arguments : Table Argument) : Except PatternFault VariableKind := do
  match given? arguments "length" with
  | some a => return text (.exactly (← a.whole))
  | none =>
    let most ← (given? arguments "maxlength").mapM Argument.whole
    let least ← ((arguments.get? "minlength").getD (.number (.whole 1))).whole
    return text (.between least most)

def choiceOf (arguments : List (Option String × Argument)) : Except PatternFault VariableKind := do
  let words ← arguments.mapM fun
    | (none, .text s) => .ok s.toList
    | _ => .error .arguments
  return choice (if words.isEmpty then [[]] else words)

def formOf (arguments : Table Argument) : NumberForm where
  signed := ((arguments.get? "signed").map Argument.isTruthy).getD false
  size := (arguments.get? "fixed_digits").getD (.number (.whole 0))
  least := (arguments.get? "min").getD .nothing
  greatest := (arguments.get? "max").getD .nothing

def ofName (name : String) (arguments : List (Option String × Argument)) :
    Except PatternFault VariableKind := do
  if name = "default" || name = "string" then
    textOf (← Argument.assign ["minlength", "maxlength", "length"] arguments)
  else if name = "any" then choiceOf arguments
  else if name = "path" then return path
  else if name = "int" then
    return integer (formOf (← Argument.assign ["fixed_digits", "min", "max", "signed"] arguments))
  else if name = "float" then
    return real (formOf (← Argument.assign ["min", "max", "signed"] arguments))
  else if name = "uuid" then return uuid
  else throw (.unknownKind name)

def signLength (form : NumberForm) (cs : List Char) : Nat :=
  if form.signed && cs.head? = some '-' then 1 else 0

def groupLengths : List Nat := [8, 4, 4, 4, 12]

def uuidLength : Nat := 36

def isHexDigit (c : Char) : Bool := (Hex.value? c).isSome

def isUuid (cs : List Char) : Bool :=
  (parts '-' cs).map List.length = groupLengths && cs.all fun c => c = '-' || isHexDigit c

def textLengths (cs : List Char) : Repetition → List Nat
  | .times least most =>
    let run := (cs.takeWhile (· ≠ '/')).length
    downFrom ((most.map (min run)).getD run) least
  | .written limits =>
    match cs with
    | c :: rest => if c ≠ '/' && limits.toList.isPrefixOf rest then [limits.length + 1] else []
    | [] => []
  | .impossible => []

/-- The lengths of what a variable may match at the start of a text, in the order in which they are
tried. Only a path is matched by as little as can be. -/
def lengths : VariableKind → List Char → List Nat
  | text size, cs => textLengths cs size
  | choice words, cs => (words.filter (·.isPrefixOf cs)).map List.length
  | path, [] => []
  | path, c :: rest =>
    if c = '/' then [] else List.range' 1 ((rest.takeWhile (· ≠ '\n')).length + 1)
  | integer form, cs =>
    let sign := signLength form cs
    downFrom (sign + digitRun (cs.drop sign)) (sign + 1)
  | real form, cs =>
    let sign := signLength form cs
    let point := sign + digitRun (cs.drop sign)
    if point = sign || (cs.drop point).head? ≠ some '.' then []
    else downFrom (point + 1 + digitRun (cs.drop (point + 1))) (point + 2)
  | uuid, cs => if isUuid (cs.take uuidLength) then [uuidLength] else []

def hasSize (size : Argument) (n : Nat) : Bool :=
  !size.isTruthy || size.number?.any (Number.isEqual (.whole n))

/-- Whether a bound, if there is one, allows a number; `beyond` says whether a number is on the wrong side of
another. -/
def isWithin (beyond : Number → Number → Bool) (n : Number) : Argument → Verdict
  | .nothing => .admitted
  | bound =>
    match bound.number? with
    | some m => if beyond n m then .refused else .admitted
    | none => .failed

def judgeNumber (form : NumberForm) (n : Number) : Verdict :=
  match isWithin Number.isLess n form.least with
  | .admitted => isWithin (fun n m => m.isLess n) n form.greatest
  | verdict => verdict

def judgeForm (form : NumberForm) (length : Nat) (n : Option Number) : Verdict :=
  if hasSize form.size length then (n.map (judgeNumber form)).getD .failed else .refused

def judge : VariableKind → String → Verdict
  | integer form, s => judgeForm form s.length ((readInt? s).map .whole)
  | real form, s => judgeForm form s.length ((readReal? s).map .real)
  | uuid, s =>
    let digits := s.toList.filter (· ≠ '-')
    if digits.length = groupLengths.foldr (· + ·) 0 && digits.all isHexDigit then .admitted else .failed
  | _, _ => .admitted

end VariableKind

structure Variable where
  name : String
  kind : VariableKind := .anyText
deriving DecidableEq, Repr

end AccessDirectory.Http
