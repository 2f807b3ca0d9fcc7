import SessionGateway.Session.RecordBytes

/-! Names for the sessions that a scenario issues: the first is S0, the next S1. A scenario uses the
names where identifiers are expected, and its answers show them in place of the identifiers. -/

namespace SessionGateway.Scenario

def sessionUuid (n : Nat) : Uuid :=
  (Uuid.ofBytes? ([0xf0, 0x0d, 0xca, 0xfe, 0x51, 0x55, 0x4e, 0x55, 0xb1, 0xd5, 0x5e, 0x55] ++
    (SessionRecord.digitBytes 4 n).reverse)).getD .zero

def sessionIndex? (s : String) : Option Nat :=
  match s.toList with
  | 'S' :: digits => Text.decimal? (.ofList digits)
  | _ => none

def uuid? (s : String) : Option Uuid :=
  match sessionIndex? s with
  | some n => some (sessionUuid n)
  | none => Uuid.parse? s

/-- Puts the names of the first `count` sessions where their identifiers stand. -/
def nameSessions (count : Nat) (s : String) : String :=
  (List.range count).foldl (fun s n => s.replace (sessionUuid n).render s!"S{n}") s

mutual

def renamed (count : Nat) : Json → Json
  | .str s => .str (nameSessions count s)
  | .arr items => .arr (renamedItems count items)
  | .obj members => .obj (renamedMembers count members)
  | v => v

def renamedItems (count : Nat) : List Json → List Json
  | [] => []
  | v :: vs => renamed count v :: renamedItems count vs

def renamedMembers (count : Nat) : List (String × Json) → List (String × Json)
  | [] => []
  | (k, v) :: ms => (nameSessions count k, renamed count v) :: renamedMembers count ms

end

end SessionGateway.Scenario
