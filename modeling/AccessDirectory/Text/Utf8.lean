/-! UTF-8: each character is one to four bytes, and the first of them says how many tails follow and
what range the first tail lies in. Reading never stops: a stretch of bytes that begins no character,
taken as far as it could have begun one, is reported as a flaw and passed over. -/

namespace AccessDirectory.Text.Utf8

abbrev Bytes := List UInt8

def encode (s : String) : Bytes := s.toList.flatMap String.utf8EncodeChar

/-- For a first byte of several: how many tails follow, and the range of the first tail. -/
def lead? (b : UInt8) : Option (Nat × UInt8 × UInt8) :=
  if b < 0xc2 then none
  else if b < 0xe0 then some (1, 0x80, 0xbf)
  else if b = 0xe0 then some (2, 0xa0, 0xbf)
  else if b = 0xed then some (2, 0x80, 0x9f)
  else if b < 0xf0 then some (2, 0x80, 0xbf)
  else if b = 0xf0 then some (3, 0x90, 0xbf)
  else if b < 0xf4 then some (3, 0x80, 0xbf)
  else if b = 0xf4 then some (3, 0x80, 0x8f)
  else none

inductive Flaw
  | badStart
  | badTail
  | cutShort
deriving DecidableEq, Repr

inductive Piece
  | char (c : Char)
  | flaw (why : Flaw) (bytes : Bytes)
deriving DecidableEq, Repr

/-- Reads the tails owed by a first byte: `owed` is their number, `low` and `high` bound the next,
`value` is the code point so far and `seen` the bytes of this character, latest first. -/
def readTails (value : Nat) (seen : Bytes) : Nat → UInt8 → UInt8 → Bytes → Piece × Bytes
  | 0, _, _, rest => (.char (Char.ofNat value), rest)
  | _ + 1, _, _, [] => (.flaw .cutShort seen.reverse, [])
  | owed + 1, low, high, b :: rest =>
    if low ≤ b ∧ b ≤ high then
      readTails (value * 64 + (b.toNat - 0x80)) (b :: seen) owed 0x80 0xbf rest
    else (.flaw .badTail seen.reverse, b :: rest)

def readPiece (b : UInt8) (rest : Bytes) : Piece × Bytes :=
  if b < 0x80 then (.char (Char.ofNat b.toNat), rest)
  else match lead? b with
    | none => (.flaw .badStart [b], rest)
    | some (owed, low, high) =>
      readTails (b.toNat % Nat.pow 2 (6 - owed)) [b] owed low high rest

theorem readTails_length (value : Nat) (seen : Bytes) (owed : Nat) (low high : UInt8) (rest : Bytes) :
    (readTails value seen owed low high rest).2.length ≤ rest.length := by
  fun_induction readTails value seen owed low high rest <;> grind

theorem readPiece_length (b : UInt8) (rest : Bytes) :
    (readPiece b rest).2.length ≤ rest.length := by
  unfold readPiece
  split
  · simp
  · split
    · simp
    · exact readTails_length ..

def pieces : Bytes → List Piece
  | [] => []
  | b :: rest =>
    let step := readPiece b rest
    step.1 :: pieces step.2
termination_by bs => bs.length
decreasing_by
  have := readPiece_length b rest
  simp only [List.length_cons]
  omega

def Piece.chars? : List Piece → Option (List Char)
  | [] => some []
  | .char c :: rest => (chars? rest).map (c :: ·)
  | .flaw _ _ :: _ => none

def decode? (bs : Bytes) : Option String := (Piece.chars? (pieces bs)).map String.ofList

def Piece.isSurrogateTail : Piece → Bool
  | .flaw .badStart [b] => 0xa0 ≤ b && b ≤ 0xbf
  | _ => false

/-- The place of the byte at which the first flaw shows; `place` counts the bytes before the pieces. A
surrogate shows at its third byte. A character that is cut short shows at no byte. -/
def Piece.flawPlace? (place : Nat) : List Piece → Option Nat
  | [] => none
  | .char c :: rest => flawPlace? (place + c.utf8Size) rest
  | .flaw .badStart _ :: _ => some place
  | .flaw .badTail [0xed] :: tail :: rest =>
    if tail.isSurrogateTail then (if rest.isEmpty then none else some (place + 2))
    else some (place + 1)
  | .flaw .badTail bytes :: _ => some (place + bytes.length)
  | .flaw .cutShort _ :: _ => none

def Piece.charsWithin (size : Nat) : List Piece → List Char
  | .char c :: rest => if c.utf8Size ≤ size then c :: charsWithin (size - c.utf8Size) rest else []
  | _ => []

def decodeLossy (bs : Bytes) : String :=
  String.ofList ((pieces bs).map fun
    | .char c => c
    | .flaw _ _ => Char.ofNat 0xfffd)

end AccessDirectory.Text.Utf8
