/-! Labels of host names in ASCII. The ASCII characters of a label come first; then, in the order of their
code points, the others follow as the numbers of steps that lie between one and the next. A number is
written in digits of base 36 whose weights adapt to the numbers before. -/

namespace AccessDirectory.Text.Punycode

def base : Nat := 36

def digit (n : Nat) : Char := Char.ofNat (if n < 26 then 0x61 + n else 0x30 + (n - 26))

def threshold (bias place : Nat) : Nat := max 1 (min 26 (place - bias))

theorem threshold_pos (bias place : Nat) : 0 < threshold bias place := by
  unfold threshold; omega

def number (bias place q : Nat) : List Char :=
  if q < threshold bias place then [digit q]
  else
    digit (threshold bias place + (q - threshold bias place) % (base - threshold bias place)) ::
      number bias (place + base) ((q - threshold bias place) / (base - threshold bias place))
termination_by q
decreasing_by
  have := threshold_pos bias place
  have := Nat.div_le_self (q - threshold bias place) (base - threshold bias place)
  omega

def biasFor (places delta : Nat) : Nat :=
  if delta ≤ 455 then places + base * delta / (delta + 38) else biasFor (places + base) (delta / 35)
termination_by delta

/-- What was written so far: `handled` counts the characters in it, `delta` the steps since the last. -/
structure State where
  handled : Nat
  delta : Nat := 0
  bias : Nat := 72
  isFirst : Bool := true
  written : List Char := []

def State.pass (m : Nat) (s : State) (c : Char) : State :=
  if c.toNat < m then { s with delta := s.delta + 1 }
  else if c.toNat = m then
    let scaled := if s.isFirst then s.delta / 700 else s.delta / 2
    { handled := s.handled + 1
      bias := biasFor 0 (scaled + scaled / (s.handled + 1))
      isFirst := false
      written := s.written ++ number s.bias base s.delta }
  else s

def writeAll (cs : List Char) : (n : Nat) → List Nat → State → List Char
  | _, [], s => s.written
  | n, m :: rest, s =>
    let s := { s with delta := s.delta + (m - n) * (s.handled + 1) }
    let s := cs.foldl (State.pass m) s
    writeAll cs (m + 1) rest { s with delta := s.delta + 1 }

def encode (cs : List Char) : List Char :=
  let plain := cs.filter (·.toNat < 0x80)
  let others := ((cs.map Char.toNat).filter (0x80 ≤ ·)).eraseDups.mergeSort
  let written := writeAll cs 0x80 others { handled := plain.length }
  if plain.isEmpty then written else plain ++ '-' :: written

def value? (c : Char) : Option Nat :=
  if c.isLower then some (c.toNat - 0x61)
  else if c.isUpper then some (c.toNat - 0x41)
  else if c.isDigit then some (c.toNat - 0x30 + 26)
  else none

def readNumber? (bias : Nat) : (place weight : Nat) → List Char → Option (Nat × List Char)
  | _, _, [] => none
  | place, weight, c :: rest => do
    let v ← value? c
    if v < threshold bias place then some (v * weight, rest)
    else
      let (n, rest) ←
        readNumber? bias (place + base) (weight * (base - threshold bias place)) rest
      some (v * weight + n, rest)

/-- Puts the characters that numbers tell into a text; `point` and `index` are the code point and the
place from which the steps of the next number are counted. The fuel bounds how many numbers there are. -/
def fill (isFirst : Bool) (bias point index : Nat) (text : List Char) :
    (fuel : Nat) → List Char → Option (List Char)
  | _, [] => some text
  | 0, _ => none
  | fuel + 1, cs => do
    let (delta, rest) ← readNumber? bias base 1 cs
    let size := text.length + 1
    let point := point + (index + delta) / size
    let index := (index + delta) % size
    if !point.isValidChar then none
    else
      let scaled := if isFirst then delta / 700 else delta / 2
      fill false (biasFor 0 (scaled + scaled / size)) point (index + 1)
        (text.take index ++ Char.ofNat point :: text.drop index) fuel rest

def decode? (cs : List Char) : Option (List Char) :=
  let numbers := (cs.reverse.takeWhile (· ≠ '-')).reverse
  fill true 72 0x80 0 (cs.take (cs.length - numbers.length - 1)) numbers.length numbers

end AccessDirectory.Text.Punycode
