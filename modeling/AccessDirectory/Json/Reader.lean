import AccessDirectory.Json.Basic
import AccessDirectory.Text.Encoding
import AccessDirectory.Text.Quoted

/-! Reading of JSON texts. The dialect knows the words `NaN`, `Infinity` and `-Infinity`; of members
with one key the last counts, at the place of the first; control characters in texts are refused, as
is a byte order mark. A fault names its cause and the place where reading stopped. -/

namespace AccessDirectory.Json
open Text

inductive Cause
  | value
  | memberName
  | colon
  | comma
  | openText
  | control
  | escape
  | unicodeEscape
  | extra
  | byteOrderMark
deriving DecidableEq, Repr

/-- Why a text is no JSON, and what was left of it from the fault on. -/
structure Fault where
  cause : Cause
  rest : List Char
deriving DecidableEq, Repr

def isSpace (c : Char) : Bool := c = ' ' || c = '\t' || c = '\n' || c = '\r'

def skipSpace (cs : List Char) : List Char := cs.dropWhile isSpace

def shortEscape? (c : Char) : Option Nat :=
  if c = Quoted.doubleQuote || c = '\\' || c = '/' then some c.toNat
  else if c = 'b' then some 8
  else if c = 'f' then some 12
  else if c = 'n' then some 10
  else if c = 'r' then some 13
  else if c = 't' then some 9
  else none

/-- The code units of a text up to its closing quote; `start` is the input from the opening quote. -/
def readUnits (start : List Char) : List Char → Except Fault (List Nat × List Char)
  | [] => .error ⟨.openText, start⟩
  | c :: rest =>
    if c = Quoted.doubleQuote then .ok ([], rest)
    else if c = '\\' then
      match rest with
      | [] => .error ⟨.openText, start⟩
      | e :: more =>
        if e = 'u' then
          match more with
          | h1 :: h2 :: h3 :: h4 :: next :: rest' =>
            match Hex.four? h1 h2 h3 h4 with
            | none => .error ⟨.unicodeEscape, e :: more⟩
            | some n => do
              let (units, after) ← readUnits start (next :: rest')
              return (n :: units, after)
          | _ => .error ⟨.unicodeEscape, e :: more⟩
        else match shortEscape? e with
          | none => .error ⟨.escape, c :: rest⟩
          | some n => do
            let (units, after) ← readUnits start more
            return (n :: units, after)
    else if c.toNat < 0x20 then .error ⟨.control, c :: rest⟩
    else do
      let (units, after) ← readUnits start rest
      return (c.toNat :: units, after)

def readString (start : List Char) : Except Fault (String × List Char) := do
  let (units, rest) ← readUnits start (start.drop 1)
  return (String.ofList (Encoding.joinPairs units), rest)

def digitsValue (digits : List Char) : Nat :=
  digits.foldl (fun n c => 10 * n + (c.toNat - 0x30)) 0

def readFraction (cs : List Char) : List Char × List Char :=
  match cs with
  | '.' :: rest =>
    let digits := rest.takeWhile Char.isDigit
    if digits.isEmpty then ([], cs) else (digits, rest.dropWhile Char.isDigit)
  | _ => ([], cs)

def readExponent (cs : List Char) : Option Int × List Char :=
  match cs with
  | c :: rest =>
    if c = 'e' || c = 'E' then
      let (negative, body) := match rest with
        | '-' :: more => (true, more)
        | '+' :: more => (false, more)
        | _ => (false, rest)
      let digits := body.takeWhile Char.isDigit
      if digits.isEmpty then (none, cs)
      else
        let n : Int := digitsValue digits
        (some (if negative then -n else n), body.dropWhile Char.isDigit)
    else (none, cs)
  | [] => (none, cs)

/-- A number without its sign. The whole part is a zero or starts with another digit. -/
def readNumber? (negative : Bool) (cs : List Char) : Option (Json × List Char) :=
  let run := cs.takeWhile Char.isDigit
  let whole := if run.head? = some '0' then ['0'] else run
  if whole.isEmpty then none
  else
    let (fraction, rest) := readFraction (cs.drop whole.length)
    let (exponent, rest) := readExponent rest
    if fraction.isEmpty && exponent.isNone then
      let n : Int := digitsValue whole
      some (.int (if negative then -n else n), rest)
    else
      let digits := digitsValue (whole ++ fraction)
      some (.real (.ofDecimal negative digits (exponent.getD 0 - fraction.length)), rest)

def wordValues : List (List Char × Json) :=
  [("null".toList, .null), ("true".toList, .bool true), ("false".toList, .bool false),
    ("NaN".toList, .real .nan), ("Infinity".toList, .real (.infinite false)),
    ("-Infinity".toList, .real (.infinite true))]

def readWord? (cs : List Char) : Option (Json × List Char) :=
  wordValues.findSome? fun (word, value) =>
    if word.isPrefixOf cs then some (value, cs.drop word.length) else none

def readScalar (cs : List Char) : Except Fault (Json × List Char) :=
  match readWord? cs with
  | some found => .ok found
  | none =>
    let number := match cs with
      | '-' :: rest => readNumber? true rest
      | _ => readNumber? false cs
    match number with
    | some found => .ok found
    | none => .error ⟨.value, cs⟩

mutual
/-- One value. The fuel bounds the depth of the calls, two of which read at least a character. -/
def readValue : (fuel : Nat) → List Char → Except Fault (Json × List Char)
  | 0, cs => .error ⟨.value, cs⟩
  | fuel + 1, cs =>
    match cs with
    | [] => .error ⟨.value, cs⟩
    | c :: rest =>
      if c = Quoted.doubleQuote then do
        let (s, after) ← readString cs
        return (.str s, after)
      else if c = '\x7b' then
        match skipSpace rest with
        | '\x7d' :: after => .ok (.obj [], after)
        | body => do
          let (members, after) ← readMembers fuel [] body
          return (.obj members, after)
      else if c = '[' then
        match skipSpace rest with
        | ']' :: after => .ok (.arr [], after)
        | body => do
          let (items, after) ← readItems fuel body
          return (.arr items, after)
      else readScalar cs

def readItems : (fuel : Nat) → List Char → Except Fault (List Json × List Char)
  | 0, cs => .error ⟨.value, cs⟩
  | fuel + 1, cs => do
    let (v, rest) ← readValue fuel cs
    match skipSpace rest with
    | ']' :: after => return ([v], after)
    | ',' :: more =>
      let (items, after) ← readItems fuel (skipSpace more)
      return (v :: items, after)
    | other => .error ⟨.comma, other⟩

def readMembers : (fuel : Nat) → List (String × Json) → List Char →
    Except Fault (List (String × Json) × List Char)
  | 0, _, cs => .error ⟨.memberName, cs⟩
  | fuel + 1, before, cs =>
    match cs with
    | [] => .error ⟨.memberName, cs⟩
    | c :: _ =>
      if c = Quoted.doubleQuote then do
        let (key, rest) ← readString cs
        match skipSpace rest with
        | ':' :: body =>
          let (v, rest) ← readValue fuel (skipSpace body)
          let members := putEntry key v before
          match skipSpace rest with
          | '\x7d' :: after => return (members, after)
          | ',' :: more => readMembers fuel members (skipSpace more)
          | other => .error ⟨.comma, other⟩
        | other => .error ⟨.colon, other⟩
      else .error ⟨.memberName, cs⟩
end

def read (cs : List Char) : Except Fault Json := do
  let (v, rest) ← readValue (2 * cs.length + 2) (skipSpace cs)
  match skipSpace rest with
  | [] => return v
  | extra => .error ⟨.extra, extra⟩

def readUnmarked (cs : List Char) : Except Fault Json :=
  if cs.head? = some '\ufeff' then .error ⟨.byteOrderMark, cs⟩ else read cs

def parse (s : String) : Except Fault Json := readUnmarked s.toList

def Cause.text : Cause → String
  | value => "Expecting value"
  | memberName => "Expecting property name enclosed in double quotes"
  | colon => "Expecting ':' delimiter"
  | comma => "Expecting ',' delimiter"
  | openText => "Unterminated string starting at"
  | control => "Invalid control character at"
  | escape => "Invalid \\escape"
  | unicodeEscape => "Invalid \\uXXXX escape"
  | extra => "Extra data"
  | byteOrderMark => "Unexpected UTF-8 BOM (decode using utf-8-sig)"

def Fault.message (source : List Char) (fault : Fault) : String :=
  let place := source.length - fault.rest.length
  let before := source.take place
  let line := before.count '\n' + 1
  let column := (before.reverse.takeWhile (· ≠ '\n')).length + 1
  fault.cause.text ++ ": line " ++ toString line ++ " column " ++ toString column ++
    " (char " ++ toString place ++ ")"

end AccessDirectory.Json
