import SessionGateway.Session.Record
import SessionGateway.Storage.Database

/-! Session records as bytes. Lengths take eight bytes, the lowest first; texts are a length and
UTF-8, times are texts, and the flag is one byte. Reading goes field by field, stops at the first
fault, and does not look at what follows the flag. -/

namespace SessionGateway

namespace SessionRecord

/-- Bytes are cut off in a length, in the credential or before the flag. A text or an identifier that
does not reach its length is too short. -/
inductive ByteFault where
  | cutOff
  | short
  | badText
  | badFlag (found : UInt8)
  | badValue
deriving DecidableEq

def ByteFault.message : ByteFault → String
  | cutOff => "io error: unexpected end of file"
  | short => "io error: "
  | badText => "string is not valid utf8"
  | badFlag found =>
    let found := found.toNat
    s!"invalid u8 while decoding bool, expected 0 or 1, found {found}"
  | badValue => "invalid value"

def digitBytes : Nat → Nat → Bytes
  | 0, _ => []
  | count + 1, n => UInt8.ofNat (n % 256) :: digitBytes count (n / 256)

def ofDigitBytes : Bytes → Nat
  | [] => 0
  | b :: bs => b.toNat + 256 * ofDigitBytes bs

def lengthBytes (n : Nat) : Bytes := digitBytes 8 n

def blockBytes (bs : Bytes) : Bytes := lengthBytes bs.length ++ bs

def textBytes (s : String) : Bytes := blockBytes s.toUTF8.data.toList

def timeBytes (t : Instant) : Bytes := textBytes (Rfc3339.render t)

def encode (r : SessionRecord) : Bytes :=
  blockBytes r.uuid.bytes ++ (textBytes r.user ++ (timeBytes r.createdAt ++
    (timeBytes r.lastAccess ++ (timeBytes r.expiresAt ++ (blockBytes r.credential ++
      [if r.invalidated then 1 else 0])))))

abbrev Reader (α : Type) := Bytes → Except ByteFault (α × Bytes)

def readLength : Reader Nat := fun bs =>
  if bs.length < 8 then .error .cutOff else .ok (ofDigitBytes (bs.take 8), bs.drop 8)

/-- A length and as many bytes; `fault` is what a lack of bytes means. -/
def readBlock (fault : ByteFault) : Reader Bytes := fun bs => do
  let (n, bs) ← readLength bs
  if bs.length < n then .error fault else .ok (bs.take n, bs.drop n)

def readUuid : Reader Uuid := fun bs => do
  let (block, bs) ← readBlock .short bs
  match Uuid.ofBytes? block with
  | some u => .ok (u, bs)
  | none => .error .badValue

def readText : Reader String := fun bs => do
  let (block, bs) ← readBlock .short bs
  match String.fromUTF8? ⟨block.toArray⟩ with
  | some s => .ok (s, bs)
  | none => .error .badText

def readTime : Reader Instant := fun bs => do
  let (s, bs) ← readText bs
  match Rfc3339.parse? s with
  | some t => .ok (t, bs)
  | none => .error .badValue

def readFlag : Reader Bool
  | [] => .error .cutOff
  | b :: bs =>
    if b = 0 then .ok (false, bs) else if b = 1 then .ok (true, bs) else .error (.badFlag b)

def read : Reader SessionRecord := fun bs => do
  let (uuid, bs) ← readUuid bs
  let (user, bs) ← readText bs
  let (createdAt, bs) ← readTime bs
  let (lastAccess, bs) ← readTime bs
  let (expiresAt, bs) ← readTime bs
  let (credential, bs) ← readBlock .cutOff bs
  let (invalidated, bs) ← readFlag bs
  return ({ uuid, user, createdAt, lastAccess, expiresAt, credential, invalidated }, bs)

def decode (bs : Bytes) : Except ByteFault SessionRecord :=
  (read bs).map (·.1)

end SessionRecord

end SessionGateway
