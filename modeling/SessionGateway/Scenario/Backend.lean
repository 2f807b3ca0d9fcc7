import SessionGateway.Persistence.Backend
import SessionGateway.Scenario.Fault
import SessionGateway.Session.Cache

/-! Steps on the store behind the sessions: faults that are scheduled, and looks and writes that
pass them by. -/

namespace SessionGateway.Scenario

def storeCall (s : String) : Reading StoreCall :=
  match s with
  | "get" => .ok .get
  | "put" => .ok .put
  | "delete" => .ok .delete
  | "range" => .ok .range
  | "flush" => .ok .flush
  | other => .error other

/-- The fault that a step schedules; a step without a kind removes the faults. -/
def storeFault (s : Json) : Reading (Option StoreFault) := do
  let message ← textOr s "message" ""
  match ← text? s "kind" with
  | none => return none
  | some "panic" => return some (.crash message)
  | some kind => return some (.error (← storageError kind message))

def dumpEntry (count : Nat) (key value : Bytes) : String × Json :=
  match SessionStore.read value with
  | .ok r => (nameSessions count r.uuid.render, r.toJson)
  | .error e =>
    let uuid := (Uuid.ofBytes? key).elim "" Uuid.render
    (nameSessions count uuid, .obj [("uuid", .str uuid), ("error", e.answer)])

def dump (count : Nat) (b : Backend) : Json :=
  let entries := b.store.tree.toList.map fun (key, value) => dumpEntry count key value
  .arr ((entries.mergeSort fun a b => a.1 ≤ b.1).map (·.2))

def storeStep? (count : Nat) (b : Backend) (s : Json) : Reading (Option (Json × Backend)) := do
  match ← text s "do" with
  | "fail" =>
    let calls ← (← texts s "on").mapM storeCall
    let fault ← storeFault s
    let times ← count? s "times"
    return some (.null, calls.foldl (fun b c => b.schedule c fault times) b)
  | "store" => return some (dump count b, b)
  | "store_put" => return some (.null, { b with store := b.store.put (← record s) })
  | "store_raw" =>
    let key := (← uuid s "uuid").bytes
    return some (.null, { b with store := ⟨b.store.tree.insert key (← bytes s "value")⟩ })
  | _ => return none

def clockStep? (now : Instant) (s : Json) : Reading (Option (Except Crash Instant)) := do
  match ← text s "do" with
  | "advance" => return some (SessionCache.laterBy now (← span s "by"))
  | "set" => return some (.ok (← time s "to"))
  | _ => return none

end SessionGateway.Scenario
