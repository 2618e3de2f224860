import AccessDirectory.Table
import AccessDirectory.Text.Real
import AccessDirectory.Text.Word

/-! Arguments of the kinds of variables, as a pattern writes them between brackets: words, numbers and quoted
texts with commas between them, some after a name and an equals sign. -/

namespace AccessDirectory.Http
open Text

inductive PatternFault
  | malformed
  | unknownKind (name : String)
  /-- A text between the arguments of a kind is no argument. -/
  | strayText (text : String)
  /-- A kind has no place for its arguments. -/
  | arguments
  | notInteger (given : String)
  | infinite
  | notANumber
  | reservedName (name : String)
  | repeatedName (name : String)
deriving DecidableEq, Repr

def isDigit (c : Char) : Bool := (digitValue? c).isSome

def downFrom (greatest least : Nat) : List Nat :=
  (List.range' least (greatest + 1 - least)).reverse

def digitRun (cs : List Char) : Nat := (cs.takeWhile isDigit).length

inductive Number
  | whole (n : Int)
  | real (x : Binary64)
deriving DecidableEq, Repr

namespace Number

def quotient? : Number → Option (Int × Nat)
  | whole n => some (n, 1)
  | real x => x.quotient?

def isLess : Number → Number → Bool
  | real .nan, _ | _, real .nan => false
  | real (.infinite a), real (.infinite b) => a && !b
  | real (.infinite negative), _ => negative
  | _, real (.infinite negative) => !negative
  | a, b =>
    match a.quotient?, b.quotient? with
    | some (n, d), some (m, e) => n * e < m * d
    | _, _ => false

def isEqual (a b : Number) : Bool :=
  match a.quotient?, b.quotient? with
  | some (n, d), some (m, e) => n * e = m * d
  | _, _ => false

end Number

inductive Argument
  | nothing
  | flag (b : Bool)
  | number (n : Number)
  | text (s : String)
deriving DecidableEq, Repr

namespace Argument

def ofWord (word : String) : Argument :=
  if word = "None" then nothing
  else if word = "True" then flag true
  else if word = "False" then flag false
  else match readInt? word, readReal? word with
    | some n, _ => number (.whole n)
    | none, some x => number (.real x)
    | none, none => text word

def isTruthy : Argument → Bool
  | nothing => false
  | flag b => b
  | number (.whole n) => n ≠ 0
  | number (.real x) => !x.isZero
  | text s => !s.isEmpty

def number? : Argument → Option Number
  | flag b => some (.whole (if b then 1 else 0))
  | number n => some n
  | nothing | text _ => none

def whole : Argument → Except PatternFault Int
  | nothing => .error .arguments
  | flag b => .ok (if b then 1 else 0)
  | number (.whole n) => .ok n
  | number (.real .nan) => .error .notANumber
  | number (.real x) =>
    match x.truncate? with
    | some n => .ok n
    | none => .error .infinite
  | text s =>
    match readInt? s with
    | some n => .ok n
    | none => .error (.notInteger s)

/-- Arguments under the names of their places. Those without a name come first in the order of the
names. -/
def assign (names : List String) (arguments : List (Option String × Argument)) :
    Except PatternFault (Table Argument) :=
  let placed := arguments.filter (·.1.isNone)
  let named := arguments.filterMap fun (name, a) => name.map (·, a)
  if names.length < placed.length || !(named.all fun a => (names.drop placed.length).contains a.1) then
    .error .arguments
  else .ok (.ofList (names.zip (placed.map (·.2)) ++ named))

def joinedLengths (cs : List Char) : List Nat :=
  (downFrom (digitRun cs) 1).flatMap fun n =>
    (downFrom (digitRun (cs.drop (n + 1))) 1).map (n + 1 + ·)

def extendedLengths (cs : List Char) : List Nat :=
  ((downFrom (digitRun cs) 1).map (· + 1)).filter (· ≤ cs.length)

def wordLengths (cs : List Char) : List Nat :=
  let names := ["True", "False"].filter (·.toList.isPrefixOf cs)
  names.map String.length ++ joinedLengths cs ++ extendedLengths cs ++ downFrom (digitRun cs) 1 ++
    downFrom (cs.takeWhile fun c => isWordChar c || c = '.').length 1

def isQuote (c : Char) : Bool := c.toNat = 0x22 || c.toNat = 0x27

def readQuoted? (cs : List Char) : Option (Argument × List Char) :=
  match cs with
  | quote :: rest =>
    let inner := rest.takeWhile (· ≠ quote)
    if isQuote quote && inner.length < rest.length then
      some (text (String.ofList inner), rest.drop (inner.length + 1))
    else none
  | [] => none

def readMarked? : List Char → Option (Argument × List Char)
  | c :: rest => readQuoted? (if ['u', 'r', 'U', 'R'].contains c then rest else c :: rest)
  | [] => none

def afterComma? (cs : List Char) : Option (List Char) :=
  match cs.dropWhile isBlank with
  | ',' :: rest => some rest
  | _ => none

def readValue? (cs : List Char) : Option (Argument × List Char) :=
  let word := (wordLengths cs).findSome? fun n =>
    (afterComma? (cs.drop n)).map (ofWord (String.ofList (cs.take n)), ·)
  word.orElse fun _ => do
    let (a, rest) ← readMarked? cs
    return (a, ← afterComma? rest)

def read? (cs : List Char) : Option ((Option String × Argument) × List Char) :=
  let cs := cs.dropWhile isBlank
  let name := cs.takeWhile isWordChar
  let named : Option (Argument × List Char) :=
    match (cs.drop name.length).dropWhile isBlank with
    | '=' :: rest => if name.isEmpty then none else readValue? (rest.dropWhile isBlank)
    | _ => none
  match named, readValue? cs with
  | some (a, rest), _ => some ((some (String.ofList name), a), rest)
  | none, some (a, rest) => some ((none, a), rest)
  | none, none => none

/-- The arguments in a text, each with a comma behind it. `skipped` is what was no argument. The fuel
bounds the number of steps, each of which passes a character. -/
def readAll : (fuel : Nat) → (skipped : List Char) → List Char →
    Except PatternFault (List (Option String × Argument))
  | 0, _, _ => .ok []
  | _, _, [] => .ok []
  | fuel + 1, skipped, c :: rest =>
    match read? (c :: rest) with
    | none => readAll fuel (skipped ++ [c]) rest
    | some (a, after) =>
      if skipped.isEmpty then do return a :: (← readAll fuel [] after)
      else .error (.strayText (String.ofList skipped))

def readList (cs : List Char) : Except PatternFault (List (Option String × Argument)) :=
  readAll (cs.length + 1) [] (cs ++ [','])

end Argument

end AccessDirectory.Http
