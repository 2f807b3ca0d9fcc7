import SessionGateway.Bytes.Hex

/-! Identifiers of sixteen bytes, ordered by their bytes. They are written as lower-case digits in
five groups; reading also takes capitals, the digits without hyphens, braces around the groups, and
the groups as a resource name. -/

namespace SessionGateway

structure Uuid where
  bytes : List UInt8
  size : bytes.length = 16
deriving DecidableEq

namespace Uuid

def zero : Uuid := ⟨List.replicate 16 0, rfl⟩

instance : Inhabited Uuid := ⟨zero⟩

instance : Ord Uuid := ⟨compareOn bytes⟩

instance : Std.TransOrd Uuid :=
  inferInstanceAs (Std.TransCmp (compareOn bytes))

instance : Std.LawfulEqOrd Uuid where
  compare_self {a} := @Std.ReflCmp.compare_self _ (compareOn bytes) _ a
  eq_of_compare {a b} h := by
    have same : a.bytes = b.bytes := Std.LawfulEqCmp.eq_of_compare h
    cases a; cases b; cases same; rfl

def ofBytes? (bs : List UInt8) : Option Uuid :=
  if h : bs.length = 16 then some ⟨bs, h⟩ else none

@[simp] theorem ofBytes?_bytes (u : Uuid) : ofBytes? u.bytes = some u := by
  rw [ofBytes?, dif_pos u.size]

/-- The generation scheme, from the high half of the seventh byte. -/
def version (u : Uuid) : Nat :=
  (u.bytes.get ⟨6, by rw [u.size]; decide⟩).toNat / 16

/-- Hyphens after 8, 12, 16 and 20 digits. -/
def hyphenated (digits : List Char) : List Char :=
  digits.take 8 ++ '-' :: (digits.drop 8).take 4 ++ '-' :: (digits.drop 12).take 4 ++
    '-' :: (digits.drop 16).take 4 ++ '-' :: digits.drop 20

def unhyphenated? (cs : List Char) : Option (List Char) :=
  let digits := cs.take 8 ++ (cs.drop 9).take 4 ++ (cs.drop 14).take 4 ++ (cs.drop 19).take 4 ++
    cs.drop 24
  if cs = hyphenated digits then some digits else none

def chars (u : Uuid) : List Char :=
  hyphenated (Bytes.hex u.bytes)

def render (u : Uuid) : String :=
  .ofList u.chars

def ofDigits? (digits : List Char) : Option Uuid :=
  (Bytes.ofHex? digits).bind ofBytes?

def ofGroups? (cs : List Char) : Option Uuid :=
  (unhyphenated? cs).bind ofDigits?

def resourceName : List Char :=
  "urn:uuid:".toList

def ofChars? (cs : List Char) : Option Uuid :=
  if cs.length = 32 then ofDigits? cs
  else if cs.length = 36 then ofGroups? cs
  else if cs.length = 38 then
    if cs.head? = some '{' ∧ cs.getLast? = some '}' then ofGroups? (cs.drop 1).dropLast else none
  else if cs.length = 45 then
    if (cs.take 9).map Char.toLower = resourceName then ofGroups? (cs.drop 9) else none
  else none

def parse? (s : String) : Option Uuid :=
  ofChars? s.toList

end Uuid

end SessionGateway
