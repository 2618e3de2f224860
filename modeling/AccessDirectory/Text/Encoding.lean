import AccessDirectory.Text.Hex
import AccessDirectory.Text.Utf8

/-! Encodings of texts in bytes: UTF-8, and UTF-16 and UTF-32 of either byte order. The encoding is told
from a byte order mark or from the places of the zero bytes, as the first two characters are taken to
be ASCII. -/

namespace AccessDirectory.Text

abbrev Bytes := List UInt8

inductive Encoding
  | utf8
  | utf16 (big : Bool)
  | utf32 (big : Bool)
deriving DecidableEq, Repr

namespace Encoding

def detect (bs : Bytes) : Encoding × Nat :=
  match bs with
  | 0x00 :: 0x00 :: 0xfe :: 0xff :: _ => (utf32 true, 4)
  | 0xff :: 0xfe :: 0x00 :: 0x00 :: _ => (utf32 false, 4)
  | 0xfe :: 0xff :: _ => (utf16 true, 2)
  | 0xff :: 0xfe :: _ => (utf16 false, 2)
  | 0xef :: 0xbb :: 0xbf :: _ => (utf8, 3)
  | a :: b :: c :: d :: _ =>
    if a = 0 then (if b = 0 then utf32 true else utf16 true, 0)
    else if b = 0 then (if c = 0 && d = 0 then utf32 false else utf16 false, 0)
    else (utf8, 0)
  | [a, b] =>
    if a = 0 then (utf16 true, 0) else if b = 0 then (utf16 false, 0) else (utf8, 0)
  | _ => (utf8, 0)

structure Fault where
  encoding : Encoding
  place : Nat
  bytes : Bytes
  reason : String
deriving DecidableEq, Repr

def name : Encoding → String
  | utf8 => "utf-8"
  | utf16 big => if big then "utf-16-be" else "utf-16-le"
  | utf32 big => if big then "utf-32-be" else "utf-32-le"

def Fault.message (fault : Fault) : String :=
  let extent := match fault.bytes with
    | [b] => "byte 0x" ++ Hex.ofBytes [b] ++ " in position " ++ toString fault.place
    | bytes =>
      "bytes in position " ++ toString fault.place ++ "-" ++
        toString (fault.place + bytes.length - 1)
  "'" ++ fault.encoding.name ++ "' codec can't decode " ++ extent ++ ": " ++ fault.reason

def flawReason : Utf8.Flaw → String
  | .badStart => "invalid start byte"
  | .badTail => "invalid continuation byte"
  | .cutShort => "unexpected end of data"

def replacement : Char := Char.ofNat 0xfffd

def ofUnit (n : Nat) : Char := if 0xd800 ≤ n && n < 0xe000 then replacement else Char.ofNat n

def endSurrogate (b c : UInt8) : Bool := 0xa0 ≤ b && b ≤ 0xbf && c ≤ 0xbf

/-- Characters of UTF-8 pieces; `place` counts the bytes before them. Three bytes that would be a
surrogate are a replacement. -/
def charsOfPieces (place : Nat) : List Utf8.Piece → Except Fault (List Char)
  | [] => .ok []
  | .char c :: rest => (charsOfPieces (place + c.utf8Size) rest).map (c :: ·)
  | .flaw .badTail [0xed] :: .flaw .badStart [b] :: .flaw .badStart [c] :: rest =>
    if endSurrogate b c then (charsOfPieces (place + 3) rest).map (replacement :: ·)
    else .error ⟨utf8, place, [0xed], flawReason .badTail⟩
  | .flaw why bytes :: _ => .error ⟨utf8, place, bytes, flawReason why⟩

def unit16 (big : Bool) (a b : UInt8) : Nat :=
  if big then a.toNat * 256 + b.toNat else b.toNat * 256 + a.toNat

def units16 (big : Bool) (place : Nat) : Bytes → Except Fault (List Nat)
  | [] => .ok []
  | [b] => .error ⟨utf16 big, place, [b], "truncated data"⟩
  | a :: b :: rest => (units16 big (place + 2) rest).map (unit16 big a b :: ·)

def joinPairs : List Nat → List Char
  | [] => []
  | [u] => [ofUnit u]
  | u :: v :: rest =>
    if 0xd800 ≤ u && u < 0xdc00 && 0xdc00 ≤ v && v < 0xe000 then
      Char.ofNat (0x10000 + (u - 0xd800) * 0x400 + (v - 0xdc00)) :: joinPairs rest
    else ofUnit u :: joinPairs (v :: rest)

def chars32 (big : Bool) (place : Nat) : Bytes → Except Fault (List Char)
  | [] => .ok []
  | a :: b :: c :: d :: rest =>
    let n := if big then unit16 true a b * 65536 + unit16 true c d
      else unit16 false c d * 65536 + unit16 false a b
    if 0x110000 ≤ n then
      .error ⟨utf32 big, place, [a, b, c, d], "code point not in range(0x110000)"⟩
    else (chars32 big (place + 4) rest).map (ofUnit n :: ·)
  | bytes => .error ⟨utf32 big, place, bytes, "truncated data"⟩

def decode (bs : Bytes) : Except Fault (List Char) :=
  match detect bs with
  | (utf8, mark) => charsOfPieces 0 (Utf8.pieces (bs.drop mark))
  | (utf16 big, mark) => (units16 big mark (bs.drop mark)).map joinPairs
  | (utf32 big, mark) => chars32 big mark (bs.drop mark)

end Encoding

end AccessDirectory.Text
