import AccessDirectory.Text.Hex
import AccessDirectory.Text.Parts

/-! Numerical addresses of hosts: four decimal octets between points, or eight hexadecimal groups between
colons, of which one run may be left out and the last two written as octets. -/

namespace AccessDirectory.Http.Address
open Text

def isOctet (cs : List Char) : Bool :=
  !cs.isEmpty && cs.all Char.isDigit && cs.length ≤ 3 && (cs = ['0'] || cs.head? ≠ some '0') &&
    cs.foldl (fun n c => 10 * n + (c.toNat - 0x30)) 0 ≤ 255

def isVersion4 (cs : List Char) : Bool :=
  let octets := parts '.' cs
  octets.length = 4 && octets.all isOctet

def isGroup (cs : List Char) : Bool :=
  !cs.isEmpty && cs.length ≤ 4 && cs.all fun c => (Hex.value? c).isSome

def groupCount : Nat := 8

/-- Whether groups make an address, of which `head` and `tail` stand before and after the gap. An empty
group belongs to a gap at that end. -/
def fillsGap (head tail : List (List Char)) : Bool :=
  let head := if head = [[]] then [] else head
  let tail := if tail = [[]] then [] else tail
  head.all isGroup && tail.all isGroup && head.length + tail.length < groupCount

def areGroups (groups : List (List Char)) : Bool :=
  let inner := (groups.drop 1).dropLast
  match inner.findIdx? List.isEmpty with
  | some i => fillsGap (groups.take (i + 1)) (groups.drop (i + 2))
  | none => groups.length = groupCount && groups.all isGroup

def groups? (cs : List Char) : Option (List (List Char)) :=
  let groups := parts ':' cs
  let last := groups.getLast?.getD []
  if groups.length < 3 then none
  else if last.contains '.' then
    if isVersion4 last then some (groups.dropLast ++ [['0'], ['0']]) else none
  else some groups

def isVersion6 (cs : List Char) : Bool :=
  let zone := cs.dropWhile (· ≠ '%')
  (zone.isEmpty || (1 < zone.length && !(zone.drop 1).contains '%')) &&
    match groups? (cs.takeWhile (· ≠ '%')) with
    | some groups => areGroups groups
    | none => false

def isFuture (cs : List Char) : Bool :=
  match cs with
  | 'v' :: rest =>
    let version := rest.takeWhile fun c => (Hex.value? c).isSome
    match rest.drop version.length with
    | '.' :: more => !version.isEmpty && !more.isEmpty && !more.contains '\n'
    | _ => false
  | _ => false

end AccessDirectory.Http.Address
