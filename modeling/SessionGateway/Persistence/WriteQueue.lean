import SessionGateway.Persistence.Backend
import SessionGateway.Plugin.Outcome

/-! The queue between the sessions and the store. Writes wait in a channel with room for a fixed
number of messages; a single worker takes them in order and tries each on the store. A write that
failed is kept, together with every later write of the same session, and tried again on an idle
tick. When the channel is full, new records are refused until the worker has caught up; deletions
and flags are still offered. -/

namespace SessionGateway

inductive WriteOp where
  | put (record : SessionRecord)
  | delete (uuid : Uuid)
  | flag (uuid : Uuid)
deriving DecidableEq

namespace WriteOp

def uuid : WriteOp → Uuid
  | put r => r.uuid
  | delete u => u
  | flag u => u

def isInvalidation : WriteOp → Bool
  | put _ => false
  | delete _ => true
  | flag _ => true

def apply (b : Backend) : WriteOp → Reply Unit × Backend
  | put r => b.put r
  | delete u => b.delete u
  | flag u =>
    match b.get u with
    | (.failed f, b) => (.failed f, b)
    | (.done none, b) => (.done (), b)
    | (.done (some r), b) => b.put r.flagged

end WriteOp

abbrev Ticket := Nat

inductive Message where
  | write (op : WriteOp)
  | barrier (ticket : Ticket)
deriving DecidableEq

/-- A write that failed, or that has to wait for one that did. -/
structure PendingWrite where
  op : WriteOp
  attempts : Nat
deriving DecidableEq

/-- A write that failed this often is given up. -/
def maxAttempts : Nat := 5

/-- Flushes are `granted` room that they have not used yet, or are `waiting` for some. The channel is
`attached` as long as its receiving end exists. -/
structure WriteQueue where
  capacity : Nat
  channel : List Message := []
  granted : List Ticket := []
  waiting : List Ticket := []
  attached : Bool := true
  disabled : Bool := false
  storeDegraded : Bool := false
  depth : Nat := 0
  dropped : Nat := 0
  completed : Nat := 0
  restarts : Nat := 0
  lastError : Option String := none
  retries : List PendingWrite := []
deriving DecidableEq

namespace WriteQueue

def ofCapacity (n : Nat) : WriteQueue where
  capacity := max n 1

/-- No channel has more room than this. -/
def largestCapacity : Nat := 2305843009213693951

/-- A queue whose channel cannot be made crashes the program. -/
def make (n : Nat) : Except Crash WriteQueue :=
  if n ≤ largestCapacity then .ok (ofCapacity n)
  else
    .error ⟨some s!"a semaphore may not have more than MAX_PERMITS permits ({largestCapacity})"⟩

def hasRoom (q : WriteQueue) : Bool :=
  q.channel.length + q.granted.length < q.capacity

def drop (q : WriteQueue) : WriteQueue :=
  { q with dropped := q.dropped + 1 }

/-- The first write that finds no room disables the queue. -/
def saturate (q : WriteQueue) : WriteQueue :=
  if q.disabled then q
  else { q with disabled := true, lastError := some s!"queue saturated at capacity {q.capacity}" }

/-- Whether the write was accepted. -/
def enqueue (q : WriteQueue) (op : WriteOp) : Bool × WriteQueue :=
  if q.disabled && !op.isInvalidation then (false, q.drop)
  else if !q.attached then (false, { q.drop with lastError := some "persistence queue closed" })
  else if q.hasRoom then
    (true, { q with channel := q.channel ++ [.write op], depth := q.depth + 1 })
  else (false, q.drop.saturate)

/-- A flush sends its barrier as soon as there is room; it counts towards the depth from the start.
-/
def beginFlush (q : WriteQueue) (t : Ticket) : WriteQueue :=
  if q.hasRoom && q.waiting.isEmpty then
    { q with channel := q.channel ++ [.barrier t], depth := q.depth + 1 }
  else { q with waiting := q.waiting ++ [t], depth := q.depth + 1 }

/-- The first flush that was granted room uses it. -/
def sendBarrier (q : WriteQueue) : WriteQueue :=
  match q.granted with
  | [] => q
  | t :: rest => { q with channel := q.channel ++ [.barrier t], granted := rest }

/-- Room in the channel goes to the flush that has waited longest. -/
def grantRoom (q : WriteQueue) : WriteQueue :=
  match q.waiting with
  | [] => q
  | t :: rest => { q with granted := q.granted ++ [t], waiting := rest }

/-- Counts a message that was taken; when it was the last one the queue is enabled again. -/
def countTaken (q : WriteQueue) : WriteQueue :=
  { q with depth := q.depth - 1, disabled := q.disabled && q.depth != 1 }

def receive (q : WriteQueue) : Option (Message × WriteQueue) :=
  match q.channel with
  | [] => none
  | m :: rest => some (m, ({ q with channel := rest }.countTaken).grantRoom)

def recordFailure (q : WriteQueue) (reason : String) : WriteQueue :=
  { q with lastError := some reason, storeDegraded := true }

/-- Tries a write. What is left of it has to be tried again; a crash loses it. -/
def attempt (q : WriteQueue) (b : Backend) (w : PendingWrite) :
    Option PendingWrite × WriteQueue × Backend :=
  match w.op.apply b with
  | (.done _, b) => (none, { q with completed := q.completed + 1, storeDegraded := false }, b)
  | (.failed (.crash text), b) =>
    (none, q.drop.recordFailure s!"session store panicked: {poolCrash text}", b)
  | (.failed (.error e), b) =>
    if maxAttempts ≤ w.attempts + 1 then (none, q.drop.recordFailure e.message, b)
    else (some { w with attempts := w.attempts + 1 }, q.recordFailure e.message, b)

/-- A write of the same session is waiting to be tried again. -/
def isBlocked (q : WriteQueue) (u : Uuid) : Bool :=
  q.retries.any (·.op.uuid = u)

def keep (q : WriteQueue) (w : PendingWrite) : WriteQueue :=
  { q with retries := q.retries ++ [w] }

def handleWrite (q : WriteQueue) (b : Backend) (op : WriteOp) : WriteQueue × Backend :=
  if q.isBlocked op.uuid then (q.keep ⟨op, 0⟩, b)
  else
    match q.attempt b ⟨op, 0⟩ with
    | (none, q, b) => (q, b)
    | (some w, q, b) => (q.keep w, b)

/-- The flush that a message completes, if it is a barrier. -/
def handle (q : WriteQueue) (b : Backend) : Message → Option Ticket × WriteQueue × Backend
  | .barrier t => (some t, q, b)
  | .write op => (none, q.handleWrite b op)

/-- Tries pending writes in order, but none of a session that is in `blocked`; what fails blocks its
session for the rest. The writes that remain are returned in their order. -/
def retryList (blocked : List Uuid) (q : WriteQueue) (b : Backend) :
    List PendingWrite → List PendingWrite × WriteQueue × Backend
  | [] => ([], q, b)
  | w :: ws =>
    if w.op.uuid ∈ blocked then
      let (rest, q, b) := retryList blocked q b ws
      (w :: rest, q, b)
    else
      match q.attempt b w with
      | (none, q, b) => retryList blocked q b ws
      | (some w, q, b) =>
        let (rest, q, b) := retryList (w.op.uuid :: blocked) q b ws
        (w :: rest, q, b)

/-- Tries every pending write that is not behind another one of its session. -/
def retry (q : WriteQueue) (b : Backend) : WriteQueue × Backend :=
  let (rest, q, b) := retryList [] { q with retries := [] } b q.retries
  ({ q with retries := rest ++ q.retries }, b)

/-- The receiving end goes away with what is in the channel; flushes that wait for room give up. -/
def detach (q : WriteQueue) : WriteQueue :=
  { q with
    attached := false
    channel := []
    granted := []
    waiting := []
    depth := q.depth - (q.granted.length + q.waiting.length) }

/-- Takes and handles messages until none is left, sending the barriers of waiting flushes as room
appears. The flushes that completed are returned. -/
def drain : Nat → WriteQueue → Backend → List Ticket × WriteQueue × Backend
  | 0, q, b => ([], q, b)
  | fuel + 1, q, b =>
    match q.sendBarrier.receive with
    | none => ([], q, b)
    | some (m, q) =>
      let (done, q, b) := q.handle b m
      let (more, q, b) := drain fuel q b
      (done.toList ++ more, q, b)

/-- Every message that is there or on its way. -/
def pendingMessages (q : WriteQueue) : Nat :=
  q.channel.length + q.granted.length + q.waiting.length

def drainAll (q : WriteQueue) (b : Backend) : List Ticket × WriteQueue × Backend :=
  drain q.pendingMessages q b

end WriteQueue

structure PersistenceHealth where
  enabled : Bool
  storeDegraded : Bool
  queueDepth : Nat
  queueCapacity : Nat
  pendingRetries : Nat
  droppedWrites : Nat
  completedWrites : Nat
  workerRestarts : Nat
  lastError : Option String
deriving DecidableEq

def PersistenceHealth.isDegraded (h : PersistenceHealth) : Bool :=
  !h.enabled || h.storeDegraded

def WriteQueue.health (q : WriteQueue) : PersistenceHealth where
  enabled := !q.disabled
  storeDegraded := q.storeDegraded
  queueDepth := q.depth
  queueCapacity := q.capacity
  pendingRetries := q.retries.length
  droppedWrites := q.dropped
  completedWrites := q.completed
  workerRestarts := q.restarts
  lastError := q.lastError

end SessionGateway
