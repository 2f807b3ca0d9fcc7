import SessionGateway.Clock.Timer
import SessionGateway.Persistence.WriteQueue

/-! The queue with its worker. Time is counted in milliseconds. A worker that runs handles whatever
is in the channel, and at every tick of its timer it tries the pending writes again. A worker that
crashes at its start, which a period of zero makes it do, is started again after a rest. -/

namespace SessionGateway

inductive WorkerState where
  | unspawned
  | ready
  | ticking (due : Nat)
  | resting (wake : Nat)
  | finished
deriving DecidableEq

/-- The rest after a crash. -/
def restartPause : Nat := 250

structure WriteBehind where
  queue : WriteQueue
  period : Nat
  worker : WorkerState := .unspawned
deriving DecidableEq

namespace WriteBehind

def spawn (w : WriteBehind) : Bool × WriteBehind :=
  if w.worker = .unspawned then (true, { w with worker := .ready }) else (false, w)

def start (w : WriteBehind) (now : Nat) : WriteBehind :=
  if w.period = 0 then
    { w with
      queue := { w.queue with
        restarts := w.queue.restarts + 1
        lastError := some "persistence worker panicked" }
      worker := .resting (now + restartPause) }
  else { w with worker := .ticking (now + w.period) }

def wake (w : WriteBehind) (now : Nat) : WriteBehind :=
  match w.worker with
  | .ready => w.start now
  | .resting time => if time ≤ now then w.start now else w
  | _ => w

/-- Tries the pending writes once for each tick. -/
def retryAt (ticks : Nat) (q : WriteQueue) (b : Backend) : WriteQueue × Backend :=
  Nat.repeat (fun (q, b) => q.retry b) ticks (q, b)

def work (w : WriteBehind) (now : Nat) (b : Backend) : List Ticket × WriteBehind × Backend :=
  match w.worker with
  | .ticking due =>
    let (done, queue, b) := w.queue.drainAll b
    let (ticks, due) := Timer.ticks w.period due now
    let (queue, b) := retryAt ticks queue b
    (done, { w with queue, worker := .ticking due }, b)
  | _ => ([], w, b)

def run (w : WriteBehind) (now : Nat) (b : Backend) : List Ticket × WriteBehind × Backend :=
  (w.wake now).work now b

def runOnly (w : WriteBehind) (now : Nat) (b : Backend) : WriteBehind × Backend :=
  (w.run now b).2

/-- Waits until the worker has seen every message that is queued; no other flush is in progress. -/
def flush (w : WriteBehind) (now : Nat) (b : Backend) : Bool × WriteBehind × Backend :=
  if w.queue.attached then
    let (done, w, b) := { w with queue := w.queue.beginFlush 0 }.run now b
    (done.contains 0, w, b)
  else (false, w, b)

/-- The queue is given up: the worker empties it, tries the pending writes once and ends. -/
def close (w : WriteBehind) (now : Nat) (b : Backend) : WriteBehind × Backend :=
  let w := w.wake now
  match w.worker with
  | .ticking _ =>
    let (_, queue, b) := w.queue.drainAll b
    let (queue, b) := queue.retry b
    ({ w with queue, worker := .finished }, b)
  | _ => (w, b)

def isFinished (w : WriteBehind) : Option Bool :=
  if w.worker = .unspawned then none else some (w.worker = .finished)

end WriteBehind

end SessionGateway
