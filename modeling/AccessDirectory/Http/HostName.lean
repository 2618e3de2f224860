import AccessDirectory.Text.Compatible
import AccessDirectory.Text.Direction
import AccessDirectory.Text.LetterCase
import AccessDirectory.Text.Punycode

/-! Names of hosts: labels between points. A label with characters beyond ASCII is prepared, so that
neither case nor compatible forms count, and written in ASCII under a mark. -/

namespace AccessDirectory.Http.HostName
open Text

def labelLimit : Nat := 63

def isPoint (c : Char) : Bool := [0x3002, 0xff0e, 0xff61].contains c.toNat

def isAsciiText (cs : List Char) : Bool := cs.all (·.toNat < 0x80)

def ignoredRuns : List Nat := [
    0xad, 0xae, 0x34f, 0x350, 0x1806, 0x1807, 0x180b, 0x180e, 0x200b, 0x200e, 0x2060, 0x2061,
    0xfe00, 0xfe10, 0xfeff, 0xff00]

def forbiddenRuns : List Nat := [
    0x80, 0xa1, 0x340, 0x342, 0x6dd, 0x6de, 0x70f, 0x710, 0x1680, 0x1681, 0x180e, 0x180f,
    0x2000, 0x2010, 0x2028, 0x2030, 0x205f, 0x2064, 0x206a, 0x2070, 0x2ff0, 0x2ffc, 0x3000,
    0x3001, 0xd800, 0xf900, 0xfdd0, 0xfdf0, 0xfeff, 0xff00, 0xfff9, 0x10000, 0x1d173, 0x1d17b,
    0x1fffe, 0x20000, 0x2fffe, 0x30000, 0x3fffe, 0x40000, 0x4fffe, 0x50000, 0x5fffe, 0x60000,
    0x6fffe, 0x70000, 0x7fffe, 0x80000, 0x8fffe, 0x90000, 0x9fffe, 0xa0000, 0xafffe, 0xb0000,
    0xbfffe, 0xc0000, 0xcfffe, 0xd0000, 0xdfffe, 0xe0000, 0xe0001, 0xe0002, 0xe0020, 0xe0080,
    0xefffe]

/-- A character in lower case for comparison: a sharp s is two letters, and a final sigma or an iota below
is as good as any. -/
def foldPlain (c : Char) : List Char :=
  if c.toNat = 0xdf then ['s', 's']
  else if c.toNat = 0x3c2 then [Char.ofNat 0x3c3]
  else if c.toNat = 0x345 then [Char.ofNat 0x3b9]
  else [c]

def fold (c : Char) : List Char :=
  (((lowerChar c).flatMap Compatible.expandChar).flatMap lowerChar).flatMap foldPlain

def hasOneDirection (cs : List Char) : Bool :=
  !cs.any isLeftward ||
    (!cs.any isRightward && cs.head?.all isLeftward && cs.getLast?.all isLeftward)

def prepare? (label : List Char) : Option (List Char) :=
  let counted := label.filter fun c => !covers ignoredRuns c.toNat
  let prepared := Compatible.form (counted.flatMap fold)
  if prepared.any (fun c => covers forbiddenRuns c.toNat) || !hasOneDirection prepared then none
  else some prepared

def asciiMark : List Char := "xn--".toList

def fits (label : List Char) : Bool := !label.isEmpty && label.length ≤ labelLimit

def asciiLabel? (label : List Char) : Option (List Char) := do
  let prepared ← if isAsciiText label then some label else prepare? label
  let written ←
    if isAsciiText prepared then some prepared
    else if asciiMark.isPrefixOf prepared then none
    else some (asciiMark ++ Punycode.encode prepared)
  if fits written then some written else none

/-- A name in ASCII, if it can be one. Only its last label may be empty. -/
def ascii? (name : List Char) : Option (List Char) :=
  if isAsciiText name then
    let labels := parts '.' name
    if name.isEmpty || (labels.dropLast.all fits && (labels.getLast?.getD []).length ≤ labelLimit) then
      some name
    else none
  else do
    let labels := parts '.' (name.map fun c => if isPoint c then '.' else c)
    let ending := if labels.getLast? = some [] then ['.'] else []
    let labels := if ending.isEmpty then labels else labels.dropLast
    return List.intercalate ['.'] (← labels.mapM asciiLabel?) ++ ending

/-- Whether a label in ASCII is written as what it stands for is written. -/
def isFaithful (label : List Char) : Bool :=
  !asciiMark.isPrefixOf label ||
    match Punycode.decode? (label.drop asciiMark.length) with
    | some original => asciiLabel? original = some label
    | none => false

def hasMark : List Char → Bool
  | [] => false
  | c :: rest => asciiMark.isPrefixOf (c :: rest) || hasMark rest

def isShowable (name : List Char) : Bool :=
  !isAsciiText name || !hasMark name || (parts '.' name).all isFaithful

def portLimit : Nat := 65535

def isPort (cs : List Char) : Bool :=
  cs.all Char.isDigit && cs.head?.any (· ≠ '0') && cs.length ≤ 5 &&
    cs.foldl (fun n c => 10 * n + (c.toNat - 0x30)) 0 ≤ portLimit

def groupCounts : List Nat := [3, 4, 5, 6, 7, 8]

def groupSize : Nat := 4

def isAddressForm (cs : List Char) : Bool :=
  let groups := parts ':' cs
  groupCounts.contains groups.length &&
    groups.all fun g => g.length ≤ groupSize && g.all fun c => (Hex.value? c).isSome

def isNameChar (c : Char) : Bool := c.isAlphanum || c = '-' || c = '.'

def isHost (cs : List Char) : Bool :=
  let rest := match cs with
    | '[' :: inner =>
      let address := inner.takeWhile (· ≠ ']')
      if address.length < inner.length && isAddressForm address then
        some (inner.drop (address.length + 1))
      else none
    | _ => if cs.head?.any isNameChar then some (cs.dropWhile isNameChar) else none
  match rest with
  | some [] => true
  | some (':' :: port) => isPort port
  | _ => false

end AccessDirectory.Http.HostName
