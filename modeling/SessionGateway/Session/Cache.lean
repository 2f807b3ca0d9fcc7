import SessionGateway.Session.Basic
import SessionGateway.Plugin.Outcome
import Std.Data.ExtTreeMap

/-! The sessions in use, by identifier, and the tombstones of those that were revoked. A tombstone
keeps a stored session from being loaded again. -/

namespace SessionGateway

/-- What became of a session that was loaded from the store. -/
inductive Admission where
  | refused
  | present (s : Session)
  | added
deriving DecidableEq

structure SweepReport where
  evictedSessions : Nat
  evictedTombstones : Nat
deriving DecidableEq

structure SessionCache where
  live : Std.ExtTreeMap Uuid Session := ∅
  revoked : Std.ExtTreeMap Uuid Instant := ∅
deriving DecidableEq

namespace SessionCache

instance : Inhabited SessionCache := ⟨{}⟩

def get? (c : SessionCache) (u : Uuid) : Option Session :=
  c.live[u]?

def isRevoked (c : SessionCache) (u : Uuid) : Bool :=
  c.revoked.contains u

def insert (c : SessionCache) (s : Session) : SessionCache :=
  { c with live := c.live.insert s.uuid s }

def insertLoaded (c : SessionCache) (s : Session) : Admission × SessionCache :=
  if c.isRevoked s.uuid then (.refused, c)
  else
    match c.get? s.uuid with
    | some present => (.present present, c)
    | none => (.added, c.insert s)

/-- Sets a tombstone unless there is one. -/
def revoke? (c : SessionCache) (u : Uuid) (time : Instant) : Option SessionCache :=
  if c.isRevoked u then none else some { c with revoked := c.revoked.insert u time }

def sessionsOf (c : SessionCache) (user : String) : List Uuid :=
  (c.live.toList.filter fun (_, s) => s.principal.user = user).map (·.1)

def laterBy (t : Instant) (d : Span) : Except Crash Instant :=
  match t.add? d with
  | some t => .ok t
  | none => .error ⟨some "`DateTime + TimeDelta` overflowed"⟩

def lasts (t : Instant) (d : Span) (now : Instant) : Except Crash Bool :=
  (laterBy t d).map fun t => now ≤ t

def checkAll {α : Type} (check : α → Except Crash Bool) : List α → Except Crash Unit
  | [] => .ok ()
  | x :: xs => (check x).bind fun _ => checkAll check xs

def staysLive (s : Session) (grace : Span) (now : Instant) : Except Crash Bool :=
  if s.invalidated then .ok false else lasts s.expiresAt grace now

/-- A sweep does not remove what it fails at. -/
def stays : Except Crash Bool → Bool
  | .ok b => b
  | .error _ => true

/-- The sessions that are left when a sweep has come to those. -/
def keptLive (c : SessionCache) (now : Instant) (grace : Span) (reached : Uuid → Bool) :
    Std.ExtTreeMap Uuid Session :=
  c.live.filter fun u s => !reached u || stays (staysLive s grace now)

def keptRevoked (c : SessionCache) (now : Instant) (age : Span) (reached : Uuid → Bool) :
    Std.ExtTreeMap Uuid Instant :=
  c.revoked.filter fun u t => !reached u || stays (lasts t age now)

/-- Removes the flagged sessions and those that expired longer ago than the grace, then the
tombstones that are older than the age. A sum that leaves the calendar ends the sweep where it
stands: what it `reached` before is gone. Sessions and tombstones come in no certain order. -/
def sweep (c : SessionCache) (now : Instant) (grace age : Span)
    (reached : Uuid → Bool := fun _ => false) : Except Crash SweepReport × SessionCache :=
  match checkAll (fun (_, s) => staysLive s grace now) c.live.toList with
  | .error crash => (.error crash, { c with live := c.keptLive now grace reached })
  | .ok _ =>
    let live := c.keptLive now grace fun _ => true
    match checkAll (fun (_, t) => lasts t age now) c.revoked.toList with
    | .error crash => (.error crash, { live, revoked := c.keptRevoked now age reached })
    | .ok _ =>
      let revoked := c.keptRevoked now age fun _ => true
      (.ok ⟨c.live.size - live.size, c.revoked.size - revoked.size⟩, { live, revoked })

end SessionCache

end SessionGateway
