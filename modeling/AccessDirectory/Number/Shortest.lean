import AccessDirectory.Number.Binary64

/-! The shortest decimal text of a binary floating-point number: the fewest digits that read back to
the number, and of those the nearest to it. -/

namespace AccessDirectory.Binary64

def reaches (num den : Nat) (k : Int) : Bool :=
  den * Nat.pow 10 k.toNat ≤ num * Nat.pow 10 (-k).toNat

def leadingPlace (num den : Nat) : Int :=
  let k : Int := (Nat.toDigits 10 num).length - (Nat.toDigits 10 den).length
  if reaches num den k then k else k - 1

/-- The number of the grid of multiples of `10 ^ place` that reads back to `x`, if one does; of two
the nearer, and of two as near the even one. -/
def onGrid? (x : Binary64) (num den : Nat) (place : Int) : Option Nat :=
  let n := num * Nat.pow 10 (-place).toNat
  let d := den * Nat.pow 10 place.toNat
  let low := n / d
  let nearest := halfEven n d
  let other := if nearest = low then low + 1 else low
  [nearest, other].find? fun c => decide (ofDecimal false c place = x)

def shortest (mantissa : Nat) (exponent : Int) : Nat × Int :=
  let num := mantissa * Nat.pow 2 exponent.toNat
  let den := Nat.pow 2 (-exponent).toNat
  let lead := leadingPlace num den
  let found := (List.range 17).findSome? fun (n : Nat) =>
    (onGrid? (finite false mantissa exponent) num den (lead - n)).map (·, lead - n)
  found.getD (mantissa, exponent)

structure SpecialWords where
  nan : String
  infinity : String

def dropZeros (digits : List Char) : List Char :=
  (digits.reverse.dropWhile (· == '0')).reverse

/-- Digits with the decimal exponent `power` of the first: positional from `10 ^ -4` up to below
`10 ^ 16`, with a fraction always; otherwise with an exponent of a sign and at least two digits. -/
def place (digits : List Char) (power : Int) : List Char :=
  if -4 ≤ power && power < 16 then
    if power < 0 then
      '0' :: '.' :: (List.replicate ((-power).toNat - 1) '0' ++ digits)
    else
      let whole := power.toNat + 1
      let padded := digits ++ List.replicate (whole - digits.length) '0'
      let fraction := digits.drop whole
      padded.take whole ++ '.' :: (if fraction.isEmpty then ['0'] else fraction)
  else
    let head := match digits with
      | [] => ['0']
      | [d] => [d]
      | d :: rest => d :: '.' :: rest
    let size := Nat.toDigits 10 power.natAbs
    let sign := if power < 0 then '-' else '+'
    head ++ 'e' :: sign :: (if size.length < 2 then '0' :: size else size)

def text (words : SpecialWords) : Binary64 → String
  | nan => words.nan
  | infinite negative => (if negative then "-" else "") ++ words.infinity
  | finite negative m e =>
    let body :=
      if m = 0 then ['0', '.', '0']
      else
        let (digits, last) := shortest m e
        let all := Nat.toDigits 10 digits
        place (dropZeros all) (last + all.length - 1)
    (if negative then "-" else "") ++ String.ofList body

end AccessDirectory.Binary64
