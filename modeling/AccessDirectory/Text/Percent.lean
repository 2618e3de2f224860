import AccessDirectory.Text.Hex
import AccessDirectory.Text.Utf8

/-! Percent escapes in the parts of a URL: a percent sign and two hexadecimal digits stand for a byte;
a percent sign without them stands for itself. The bytes are read as UTF-8. -/

namespace AccessDirectory.Text.Percent

def toBytes : List Char → List UInt8
  | [] => []
  | [c] => String.utf8EncodeChar c
  | [c, d] => String.utf8EncodeChar c ++ String.utf8EncodeChar d
  | c :: a :: b :: rest =>
    if c = '%' then
      match Hex.value? a, Hex.value? b with
      | some high, some low => UInt8.ofNat (16 * high + low) :: toBytes rest
      | _, _ => String.utf8EncodeChar c ++ toBytes (a :: b :: rest)
    else String.utf8EncodeChar c ++ toBytes (a :: b :: rest)

def decode (s : String) : String := Utf8.decodeLossy (toBytes s.toList)

def escape (b : UInt8) : List Char :=
  let upperDigit (n : Nat) : Char := Char.ofNat (if n < 10 then 0x30 + n else 0x37 + n)
  ['%', upperDigit (b.toNat / 16), upperDigit (b.toNat % 16)]

def isUnreserved (c : Char) : Bool :=
  c.isAlphanum || c == '-' || c == '.' || c == '_' || c == '~'

def encodeSegment (s : String) : String :=
  String.ofList (s.toList.flatMap fun c =>
    if isUnreserved c then [c] else (String.utf8EncodeChar c).flatMap escape)

end AccessDirectory.Text.Percent
