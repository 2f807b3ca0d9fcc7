/-! Bytes as pairs of hexadecimal digits, written in lower case and read in either. -/

namespace SessionGateway.Bytes

def hexDigit (n : Nat) : Char :=
  if n < 10 then Char.ofNat (48 + n) else Char.ofNat (87 + n)

def hexValue? (c : Char) : Option Nat :=
  if '0' ≤ c ∧ c ≤ '9' then some (c.toNat - 48)
  else if 'a' ≤ c ∧ c ≤ 'f' then some (c.toNat - 87)
  else if 'A' ≤ c ∧ c ≤ 'F' then some (c.toNat - 55)
  else none

theorem hexValue?_hexDigit : ∀ n < 16, hexValue? (hexDigit n) = some n := by decide

def byteHex (b : UInt8) : List Char :=
  [hexDigit (b.toNat / 16), hexDigit (b.toNat % 16)]

def hex (bs : List UInt8) : List Char :=
  bs.flatMap byteHex

def ofHex? : List Char → Option (List UInt8)
  | [] => some []
  | a :: b :: rest => do
    let high ← hexValue? a
    let low ← hexValue? b
    let bytes ← ofHex? rest
    some (UInt8.ofNat (16 * high + low) :: bytes)
  | [_] => none

theorem ofHex?_hex (bs : List UInt8) : ofHex? (hex bs) = some bs := by
  induction bs with
  | nil => rfl
  | cons b bs ih =>
    have high := hexValue?_hexDigit (b.toNat / 16) (by have := b.toNat_lt; omega)
    have low := hexValue?_hexDigit (b.toNat % 16) (by omega)
    have whole : 16 * (b.toNat / 16) + b.toNat % 16 = b.toNat := by omega
    change ofHex? (hexDigit _ :: hexDigit _ :: hex bs) = _
    simp only [ofHex?, high, low, ih, whole, Option.bind_eq_bind, Option.bind_some,
      UInt8.ofNat_toNat]

theorem length_hex (bs : List UInt8) : (hex bs).length = 2 * bs.length := by
  induction bs with
  | nil => rfl
  | cons b bs ih =>
    change (hex bs).length + 2 = _
    simp [ih]; omega

end SessionGateway.Bytes
