/-! The base64 alphabet that is safe in URLs. Writing adds no padding. Reading takes up to two padding
marks, and only in a text whose length they make a multiple of four; a text that writing could not
have produced, padding aside, is refused. -/

namespace AccessDirectory.Text.Base64Url

def digit (n : Nat) : Char :=
  Char.ofNat
    (if n < 26 then 0x41 + n else if n < 52 then 0x61 + (n - 26) else if n < 62 then 0x30 + (n - 52)
    else if n = 62 then 0x2d else 0x5f)

def value? (c : Char) : Option Nat :=
  let n := c.toNat
  if 0x41 ≤ n && n ≤ 0x5a then some (n - 0x41)
  else if 0x61 ≤ n && n ≤ 0x7a then some (n - 0x61 + 26)
  else if 0x30 ≤ n && n ≤ 0x39 then some (n - 0x30 + 52)
  else if n = 0x2d then some 62
  else if n = 0x5f then some 63
  else none

theorem value?_digit : ∀ n < 64, value? (digit n) = some n := by decide

def encode : List UInt8 → List Char
  | [] => []
  | [a] => [digit (a.toNat / 4), digit (a.toNat % 4 * 16)]
  | [a, b] =>
    [digit (a.toNat / 4), digit (a.toNat % 4 * 16 + b.toNat / 16), digit (b.toNat % 16 * 4)]
  | a :: b :: c :: rest =>
    digit (a.toNat / 4) :: digit (a.toNat % 4 * 16 + b.toNat / 16) ::
      digit (b.toNat % 16 * 4 + c.toNat / 64) :: digit (c.toNat % 64) :: encode rest

/-- The bytes of six-bit numbers; the spare bits of a last group of two or three are dropped. -/
def pack : List Nat → Option (List UInt8)
  | [] => some []
  | [_] => none
  | [a, b] => some [UInt8.ofNat (a * 4 + b / 16)]
  | [a, b, c] => some [UInt8.ofNat (a * 4 + b / 16), UInt8.ofNat (b % 16 * 16 + c / 4)]
  | a :: b :: c :: d :: rest =>
    (pack rest).map fun more =>
      UInt8.ofNat (a * 4 + b / 16) :: UInt8.ofNat (b % 16 * 16 + c / 4) ::
        UInt8.ofNat (c % 4 * 64 + d) :: more

def unpadded? (cs : List Char) : Option (List Char) :=
  let body := (cs.reverse.dropWhile (· == '=')).reverse
  let pads := cs.length - body.length
  if pads = 0 then some cs
  else if pads ≤ 2 && cs.length % 4 == 0 then some body
  else none

def decode? (cs : List Char) : Option (List UInt8) := do
  let body ← unpadded? cs
  let bytes ← pack (← body.mapM value?)
  if encode bytes = body then some bytes else none

end AccessDirectory.Text.Base64Url
