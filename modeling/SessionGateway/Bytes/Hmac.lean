import SessionGateway.Bytes.Sha256

/-! Keyed message authentication over SHA-256. -/

namespace SessionGateway.Bytes.Hmac

/-- A key longer than a block is replaced by its digest; a shorter one is filled with zeros. -/
def blockKey (key : List UInt8) : List UInt8 :=
  let short := if key.length ≤ 64 then key else Sha256.digest key
  short ++ List.replicate (64 - short.length) 0

def sha256 (key message : List UInt8) : List UInt8 :=
  let k := blockKey key
  Sha256.digest (k.map (· ^^^ 0x5c) ++ Sha256.digest (k.map (· ^^^ 0x36) ++ message))

end SessionGateway.Bytes.Hmac
