import AccessDirectory.Failure
import AccessDirectory.Http.Address
import AccessDirectory.Http.HostName
import AccessDirectory.Text.Quoted

/-! References: a scheme before a colon, a host after two slashes, a path, and a query after a question
mark. What follows a number sign belongs to none of them. -/

namespace AccessDirectory.Http
open Text

structure Reference where
  /-- In lower case; empty where there is none. -/
  scheme : List Char
  host : List Char
  path : List Char
  query : List Char
deriving DecidableEq, Repr

namespace Reference

inductive Fault
  | brackets
  /-- What stands in brackets is no address that belongs there. -/
  | address (text : String)
  | shortAddress
  | futureAddress
  /-- A character of the host stands for a separator. -/
  | hostCharacter (host : String)
  | hostName (name : String)
  | portText (port : String)
  | portRange
deriving DecidableEq, Repr

def Fault.kind : Fault → FailureClass
  | hostName _ => .hostName
  | _ => .value

def Fault.message : Fault → String
  | brackets => "Invalid IPv6 URL"
  | address text => Quoted.quoted text ++ " does not appear to be an IPv4 or IPv6 address"
  | shortAddress => "An IPv4 address cannot be in brackets"
  | futureAddress => "IPvFuture address is invalid"
  | hostCharacter host =>
    "netloc '" ++ host ++ "' contains invalid characters under NFKC normalization"
  | hostName name => Quoted.quoted name ++ " is no name of a host"
  | portText port => "Port could not be cast to integer value as " ++ Quoted.quoted port
  | portRange => "Port out of range 0-65535"

def isSchemeChar (c : Char) : Bool := c.isAlphanum || c = '+' || c = '-' || c = '.'

def splitScheme (cs : List Char) : List Char × List Char :=
  match cs, cs.dropWhile isSchemeChar with
  | c :: _, ':' :: rest =>
    if c.isAlpha then ((cs.takeWhile isSchemeChar).map Char.toLower, rest) else ([], cs)
  | _, _ => ([], cs)

def splitHost : List Char → List Char × List Char
  | '/' :: '/' :: rest =>
    (rest.takeWhile fun c => c ≠ '/' && c ≠ '?', rest.dropWhile fun c => c ≠ '/' && c ≠ '?')
  | cs => ([], cs)

/-- Characters whose compatible form holds a separator. -/
def foldsToSeparator (c : Char) : Bool :=
  [0x2047, 0x2048, 0x2049, 0x2100, 0x2101, 0x2105, 0x2106, 0x2a74, 0xfe13, 0xfe16, 0xfe55, 0xfe56,
    0xfe5f, 0xfe6b, 0xff03, 0xff0f, 0xff1a, 0xff1f, 0xff20].contains c.toNat

def checkAddress (address : List Char) : Except Fault Unit :=
  if address.head? = some 'v' then
    if Address.isFuture address then .ok () else .error .futureAddress
  else if Address.isVersion4 address then .error .shortAddress
  else if Address.isVersion6 address then .ok ()
  else .error (.address (String.ofList address))

def splitUser (host : List Char) : Option (List Char) × List Char :=
  let rest := (host.reverse.takeWhile (· ≠ '@')).reverse
  (if rest.length < host.length then some (host.take (host.length - rest.length - 1)) else none, rest)

/-- Brackets come in pairs; those of a host stand around all of its name, and what they hold is an
address. If only who asks has brackets, the name must be an address all the same. -/
def checkBrackets (host : List Char) : Except Fault Unit :=
  if host.contains '[' ≠ host.contains ']' then .error .brackets
  else if !host.contains '[' then .ok ()
  else
    let place := (splitUser host).2
    match place.dropWhile (· ≠ '[') with
    | [] => checkAddress (place.takeWhile (· ≠ ':'))
    | _ :: inner =>
      let after := (inner.dropWhile (· ≠ ']')).drop 1
      if place.head? ≠ some '[' || after.head?.any (· ≠ ':') then .error .brackets
      else checkAddress (inner.takeWhile (· ≠ ']'))

def checkHost (host : List Char) : Except Fault Unit := do
  checkBrackets host
  if host.any foldsToSeparator then throw (.hostCharacter (String.ofList host))

/-- Controls and blanks in front do not count, nor do tabs and line ends anywhere. -/
def clean (cs : List Char) : List Char :=
  (cs.dropWhile fun c => c.toNat ≤ 0x20).filter fun c => c ≠ '\t' && c ≠ '\n' && c ≠ '\r'

def read (cs : List Char) : Except Fault Reference := do
  let (scheme, rest) := splitScheme ((clean cs).takeWhile (· ≠ '#'))
  let (host, rest) := splitHost rest
  checkHost host
  return {
    scheme, host
    path := rest.takeWhile (· ≠ '?')
    query := (rest.dropWhile (· ≠ '?')).drop 1 }

def splitPort (host : List Char) : List Char × List Char :=
  let place := (splitUser host).2
  match place.dropWhile (· ≠ '[') with
  | _ :: inner =>
    let after := (inner.dropWhile (· ≠ ']')).drop 1
    (inner.takeWhile (· ≠ ']'), (after.dropWhile (· ≠ ':')).drop 1)
  | [] => (place.takeWhile (· ≠ ':'), (place.dropWhile (· ≠ ':')).drop 1)

def readPort (cs : List Char) : Except Fault (Option Nat) :=
  if cs.isEmpty then .ok none
  else if !cs.all Char.isDigit then .error (.portText (String.ofList cs))
  else
    let n := cs.foldl (fun n c => 10 * n + (c.toNat - 0x30)) 0
    if 65535 < n then .error .portRange else .ok (some n)

def lowerName (name : List Char) : List Char :=
  (lower (String.ofList (name.takeWhile (· ≠ '%')))).toList ++ name.dropWhile (· ≠ '%')

def normalPlace (host : List Char) : Except Fault (List Char) := do
  let (given, port) := splitPort host
  let name ← match HostName.ascii? (lowerName given) with
    | some name => .ok name
    | none => .error (.hostName (String.ofList given))
  let name := if name.contains ':' then '[' :: name ++ [']'] else name
  return match ← readPort port with
    | none => name
    | some n => name ++ ':' :: (toString n).toList

def normalHost (host : List Char) : Except Fault (List Char) := do
  let place ← normalPlace host
  return match (splitUser host).1 with
    | none => place
    | some user => user ++ '@' :: place

def hostSchemes : List String :=
  ["ftp", "http", "gopher", "nntp", "telnet", "imap", "wais", "file", "mms", "https", "shttp",
    "snews", "prospero", "rtsp", "rtsps", "rtspu", "rsync", "svn", "svn+ssh", "sftp", "nfs", "git",
    "git+ssh", "ws", "wss", "itms-services"]

def write (r : Reference) : List Char :=
  let showsHost := !r.host.isEmpty || hostSchemes.contains (String.ofList r.scheme) ||
    ['/', '/'].isPrefixOf r.path
  let path :=
    if showsHost then
      '/' :: '/' :: r.host ++
        (if r.path.isEmpty || r.path.head? = some '/' then r.path else '/' :: r.path)
    else r.path
  if r.scheme.isEmpty then path else r.scheme ++ ':' :: path

end Reference

end AccessDirectory.Http
