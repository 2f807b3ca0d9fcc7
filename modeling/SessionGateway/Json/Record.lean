import SessionGateway.Json.Basic

/-! Records as JSON. A record is an object with a member a field, or an array of the fields in their
order. Unknown members are passed over; a field that is given twice makes the record unreadable. -/

namespace SessionGateway.Json

/-- What a document says about one field of a record. An object may lack the member, and an array may
be cut before the field. -/
inductive Slot where
  | given (v : Json)
  | absent
  | cut

namespace Slot

def required {α : Type} (read : Json → Option α) : Slot → Option α
  | given v => read v
  | _ => none

/-- A member that is absent counts as null; an array cannot leave the field out. -/
def optional {α : Type} (read : Json → Option α) : Slot → Option (Option α)
  | given null => some none
  | given v => (read v).map some
  | absent => some none
  | cut => none

def withDefault {α : Type} (value : α) (read : Json → Option α) : Slot → Option α
  | given v => read v
  | _ => some value

end Slot

/-- One slot for each of the names, which are the fields of a record in their order. -/
def fields? (names : List String) : Json → Option (List Slot)
  | obj ms =>
    if names.all fun name => (ms.filter (·.1 = name)).length ≤ 1 then
      some (names.map fun name => (ms.lookup name).elim .absent .given)
    else none
  | arr vs =>
    if vs.length ≤ names.length then
      some (vs.map .given ++ List.replicate (names.length - vs.length) .cut)
    else none
  | _ => none

def text? : Json → Option String
  | str s => some s
  | _ => none

def bool? : Json → Option Bool
  | bool b => some b
  | _ => none

def int? (low high : Int) : Json → Option Int
  | int n => if low ≤ n ∧ n ≤ high then some n else none
  | _ => none

def unsigned? (bits : Nat) : Json → Option Nat
  | int (.ofNat n) => if n < Nat.pow 2 bits then some n else none
  | _ => none

def list? {α : Type} (read : Json → Option α) : Json → Option (List α)
  | arr vs => vs.mapM read
  | _ => none

def bytes? : Json → Option (List UInt8) :=
  list? fun v => (unsigned? 8 v).map UInt8.ofNat

def ofBytes (bs : List UInt8) : Json :=
  arr (bs.map fun b => int b.toNat)

def ofOption {α : Type} (write : α → Json) : Option α → Json
  | some x => write x
  | none => null

/-- The name of a variant and what comes with it: a text, or an object with one member. -/
def variant? : Json → Option (String × Option Json)
  | str s => some (s, none)
  | obj [(name, v)] => some (name, some v)
  | _ => none

def label? (v : Json) : Option String :=
  match variant? v with
  | some (name, none) => some name
  | some (name, some null) => some name
  | _ => none

end SessionGateway.Json
