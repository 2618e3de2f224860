import AccessDirectory.Hash.Sha256

/-! Keyed message authentication over SHA-256. -/

namespace AccessDirectory.Hash

def blockKey (key : Bytes) : Bytes :=
  let short := if 64 < key.length then sha256 key else key
  short ++ List.replicate (64 - short.length) 0

def hmac (key message : Bytes) : Bytes :=
  let pad (b : UInt8) := (blockKey key).map (· ^^^ b)
  sha256 (pad 0x5c ++ sha256 (pad 0x36 ++ message))

end AccessDirectory.Hash
