import AccessDirectory.Json.Basic
import AccessDirectory.Number.Shortest
import AccessDirectory.Text.Hex
import AccessDirectory.Text.Quoted

/-! JSON texts of values. A style fixes the separators and whether characters beyond printable
ASCII are written as escapes. The signed form of a value is the compact ASCII text with sorted members. -/

namespace AccessDirectory.Json
open Text

structure Style where
  comma : List Char
  colon : List Char
  asciiOnly : Bool

def Style.spaced : Style := ⟨[',', ' '], [':', ' '], false⟩

def Style.compact : Style := ⟨[','], [':'], true⟩

def realWords : Binary64.SpecialWords := ⟨"NaN", "Infinity"⟩

def unicodeEscape (unit : Nat) : List Char := '\\' :: 'u' :: Hex.fixed 4 unit

def unitEscapes (n : Nat) : List Char :=
  if n < 0x10000 then unicodeEscape n
  else
    unicodeEscape (0xd800 + (n - 0x10000) / 0x400) ++ unicodeEscape (0xdc00 + (n - 0x10000) % 0x400)

def writeChar (style : Style) (c : Char) : List Char :=
  if c = Quoted.doubleQuote then ['\\', c]
  else if c = '\\' then ['\\', '\\']
  else if c = '\n' then ['\\', 'n']
  else if c = '\r' then ['\\', 'r']
  else if c = '\t' then ['\\', 't']
  else if c.toNat = 8 then ['\\', 'b']
  else if c.toNat = 12 then ['\\', 'f']
  else if c.toNat < 0x20 then unicodeEscape c.toNat
  else if style.asciiOnly && 0x7f ≤ c.toNat then unitEscapes c.toNat
  else [c]

def writeString (style : Style) (s : String) : List Char :=
  Quoted.doubleQuote :: s.toList.flatMap (writeChar style) ++ [Quoted.doubleQuote]

mutual
def write (style : Style) : Json → List Char
  | null => ['n', 'u', 'l', 'l']
  | bool true => ['t', 'r', 'u', 'e']
  | bool false => ['f', 'a', 'l', 's', 'e']
  | int n => (toString n).toList
  | real x => (x.text realWords).toList
  | str s => writeString style s
  | arr items => '[' :: writeItems style items ++ [']']
  | obj members => '\x7b' :: writeMembers style members ++ ['\x7d']

def writeItems (style : Style) : List Json → List Char
  | [] => []
  | [v] => write style v
  | v :: rest => write style v ++ style.comma ++ writeItems style rest

def writeMembers (style : Style) : List (String × Json) → List Char
  | [] => []
  | [(k, v)] => writeString style k ++ style.colon ++ write style v
  | (k, v) :: rest =>
    writeString style k ++ style.colon ++ write style v ++ style.comma ++ writeMembers style rest
end

def canonical (value : Json) : String := String.ofList (write .compact value.sorted)

def compactText (value : Json) : String := String.ofList (write .compact value)

def spacedText (value : Json) : String := String.ofList (write .spaced value)

end AccessDirectory.Json
