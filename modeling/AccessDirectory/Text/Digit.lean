import AccessDirectory.Text.Blank
import AccessDirectory.Text.Quoted

/-! Decimal digits of every script and the integers written with them. A decimal digit of any script
counts for its value; single underscores may separate digits; one sign may stand in front. -/

namespace AccessDirectory.Text

/-- The code points of the zeros of the scripts; each is followed by the digits one to nine. -/
def zeros : List Nat := [
    0x30, 0x660, 0x6f0, 0x7c0, 0x966, 0x9e6, 0xa66, 0xae6, 0xb66, 0xbe6, 0xc66, 0xce6, 0xd66,
    0xde6, 0xe50, 0xed0, 0xf20, 0x1040, 0x1090, 0x17e0, 0x1810, 0x1946, 0x19d0, 0x1a80, 0x1a90,
    0x1b50, 0x1bb0, 0x1c40, 0x1c50, 0xa620, 0xa8d0, 0xa900, 0xa9d0, 0xa9f0, 0xaa50, 0xabf0,
    0xff10, 0x104a0, 0x10d30, 0x11066, 0x110f0, 0x11136, 0x111d0, 0x112f0, 0x11450, 0x114d0,
    0x11650, 0x116c0, 0x11730, 0x118e0, 0x11950, 0x11c50, 0x11d50, 0x11da0, 0x16a60, 0x16ac0,
    0x16b50, 0x1d7ce, 0x1d7d8, 0x1d7e2, 0x1d7ec, 0x1d7f6, 0x1e140, 0x1e2f0, 0x1e950, 0x1fbf0]

def digitValue? (c : Char) : Option Nat :=
  (zeros.find? fun z => z ≤ c.toNat && c.toNat ≤ z + 9).map (c.toNat - ·)

/-- The number written by a run of digits in which single underscores may stand between two digits;
`acc` is the number read so far. -/
def readDigits (acc : Nat) : List Char → Option Nat
  | [] => some acc
  | c :: rest =>
    if c = '_' then
      match rest with
      | [] => none
      | d :: more => (digitValue? d).bind fun v => readDigits (10 * acc + v) more
    else (digitValue? c).bind fun v => readDigits (10 * acc + v) rest

def readNat? : List Char → Option Nat
  | [] => none
  | c :: rest => (digitValue? c).bind fun v => readDigits v rest

/-- The blanks allowed around an integer: the blank characters except the four information
separators. -/
def isMargin (c : Char) : Bool := isBlank c && !(0x1c ≤ c.toNat && c.toNat ≤ 0x1f)

def readInt? (s : String) : Option Int :=
  match trimBy isMargin s.toList with
  | '+' :: rest => (readNat? rest).map Int.ofNat
  | '-' :: rest => (readNat? rest).map fun n => -(n : Int)
  | rest => (readNat? rest).map Int.ofNat

def shownLength : Nat := 200

def notIntegerText (given : String) : String :=
  "invalid literal for int() with base 10: " ++
    String.ofList ((Quoted.quoted given).toList.take shownLength)

end AccessDirectory.Text
