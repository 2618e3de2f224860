import AccessDirectory.Number.Binary64

/-! Instants as microseconds since the start of 1970 in universal time, their parts in the civil
calendar, and the roundings under which they are reported. -/

namespace AccessDirectory.Clock

abbrev Instant := Int

def earliest : Instant := -62135596800000000
def latest : Instant := 253402300799999999

def inRange (t : Instant) : Bool := earliest ≤ t && t ≤ latest

def rangeText : String := "date value out of range"

def seconds (t : Instant) : Int := Int.fdiv t 1000000

def realSeconds (t : Instant) : Binary64 := .ofIntRatio t 1000000

/-- Milliseconds: the seconds as a floating-point number, times a thousand in floating point, without
the fraction. -/
def milliseconds (t : Instant) : Int := (((realSeconds t).scaleBy 1000).truncate?).getD 0

structure Date where
  year : Int
  month : Nat
  day : Nat
deriving DecidableEq, Repr

/-- The date of a day counted from the start of 1970. The count is moved to the first of March of the
year 0, so that a leap day ends its year. -/
def date (day : Int) : Date :=
  let z := day + 719468
  let era := Int.fdiv z 146097
  let dayOfEra := (z - era * 146097).toNat
  let yearOfEra := (dayOfEra - dayOfEra / 1460 + dayOfEra / 36524 - dayOfEra / 146096) / 365
  let dayOfYear := dayOfEra - (365 * yearOfEra + yearOfEra / 4 - yearOfEra / 100)
  let shifted := (5 * dayOfYear + 2) / 153
  let month := if shifted < 10 then shifted + 3 else shifted - 9
  { year := yearOfEra + era * 400 + (if month ≤ 2 then 1 else 0)
    month
    day := dayOfYear - (153 * shifted + 2) / 5 + 1 }

def digits : (width : Nat) → Nat → List Char
  | 0, _ => []
  | width + 1, n => digits width (n / 10) ++ [Char.ofNat (0x30 + n % 10)]

/-- Date, time of day and the offset of universal time. A fraction is written only if it is not zero,
and then with six digits. -/
def stamp (t : Instant) : String :=
  let second := seconds t
  let micro := (t - second * 1000000).toNat
  let dayNumber := Int.fdiv second 86400
  let ofDay := (second - dayNumber * 86400).toNat
  let d := date dayNumber
  let fraction := if micro = 0 then [] else '.' :: digits 6 micro
  String.ofList
    (digits 4 d.year.toNat ++ '-' :: digits 2 d.month ++ '-' :: digits 2 d.day ++
      'T' :: digits 2 (ofDay / 3600) ++ ':' :: digits 2 (ofDay / 60 % 60) ++
      ':' :: digits 2 (ofDay % 60) ++ fraction ++ ['+', '0', '0', ':', '0', '0'])

end AccessDirectory.Clock
