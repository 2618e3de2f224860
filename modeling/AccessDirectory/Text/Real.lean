import AccessDirectory.Number.Binary64
import AccessDirectory.Text.Digit

/-! Numbers with a fraction or an exponent, read from texts. Digits of every script count, single
underscores may separate digits, and the words for infinity and for no number are read in any case. -/

namespace AccessDirectory.Text

def readRun? (cs : List Char) : Option (Nat × Nat) :=
  if cs.isEmpty then some (0, 0)
  else (readNat? cs).map (·, (cs.filter (· ≠ '_')).length)

def isRunChar (c : Char) : Bool := (digitValue? c).isSome || c = '_'

def readExponent? : List Char → Option Int
  | '-' :: cs => (readNat? cs).map fun n => -(n : Int)
  | '+' :: cs => (readNat? cs).map Int.ofNat
  | cs => (readNat? cs).map Int.ofNat

def readDecimal? (negative : Bool) (cs : List Char) : Option Binary64 := do
  let whole := cs.takeWhile isRunChar
  let rest := cs.drop whole.length
  let (fraction, rest) := match rest with
    | '.' :: more => (more.takeWhile isRunChar, more.dropWhile isRunChar)
    | rest => ([], rest)
  let exponent ← match rest with
    | [] => some 0
    | 'e' :: more => readExponent? more
    | _ => none
  if whole.isEmpty && fraction.isEmpty then none
  let (n, _) ← readRun? whole
  let (f, places) ← readRun? fraction
  return .ofDecimal negative (n * Nat.pow 10 places + f) (exponent - places)

def readUnsigned? (negative : Bool) (cs : List Char) : Option Binary64 :=
  let word := String.ofList cs
  if word = "inf" || word = "infinity" then some (.infinite negative)
  else if word = "nan" then some .nan
  else readDecimal? negative cs

def readReal? (s : String) : Option Binary64 :=
  match (trimBy isMargin s.toList).map Char.toLower with
  | '+' :: rest => readUnsigned? false rest
  | '-' :: rest => readUnsigned? true rest
  | rest => readUnsigned? false rest

end AccessDirectory.Text
