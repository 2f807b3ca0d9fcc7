import SessionGateway.Proofs.Persistence.Ledger

/-! Runs of the queue in which flushes go step by step. A flush counts itself when it is called, then
asks for room, and sends its barrier once it has some; writers, other flushes and the worker may go
on between any two of these. The messages that were sent so far only grow at their end, and the
worker takes them from the front. -/

namespace SessionGateway

open WriteOp

namespace WriteQueue

/-- A flush that is called counts towards the depth at once. -/
def countFlush (q : WriteQueue) : WriteQueue :=
  { q with depth := q.depth + 1 }

/-- A flush asks for room. It may have to wait for it; if the channel is closed it gives up. -/
def askRoom (q : WriteQueue) (t : Ticket) : WriteQueue :=
  if !q.attached then { q with depth := q.depth - 1 }
  else if q.hasRoom && q.waiting.isEmpty then { q with granted := q.granted ++ [t] }
  else { q with waiting := q.waiting ++ [t] }

def send (q : WriteQueue) (t : Ticket) : WriteQueue :=
  if t ∈ q.granted then
    { q with channel := q.channel ++ [.barrier t], granted := q.granted.erase t }
  else q

theorem askRoom_of_attached {q : WriteQueue} (opened : q.attached = true) (t : Ticket) :
    q.askRoom t =
      if q.hasRoom && q.waiting.isEmpty then { q with granted := q.granted ++ [t] }
      else { q with waiting := q.waiting ++ [t] } := by
  simp only [askRoom, opened, Bool.not_true, Bool.false_eq_true, if_false]

/-- The flush that the worker completes when it takes the oldest message, if that is a barrier. -/
def completes (q : WriteQueue) (b : Backend) : Option Ticket :=
  q.receive.bind fun (m, q) => (q.handle b m).1

/-- Two queues with the same messages, there or on their way, and the same room for more. -/
structure SameIntake (q q' : WriteQueue) : Prop where
  channel : q'.channel = q.channel
  granted : q'.granted = q.granted
  waiting : q'.waiting = q.waiting
  capacity : q'.capacity = q.capacity
  attached : q'.attached = q.attached
  disabled : q'.disabled = q.disabled
  depth : q'.depth = q.depth

theorem SameIntake.refl (q : WriteQueue) : q.SameIntake q :=
  ⟨rfl, rfl, rfl, rfl, rfl, rfl, rfl⟩

theorem Counted.sameIntake {q q' : WriteQueue} (h : q.Counted q') : q.SameIntake q' :=
  ⟨h.channel, h.granted, h.waiting, h.capacity, h.attached, h.disabled, h.depth⟩

theorem sameIntake_handle (q : WriteQueue) (b : Backend) (m : Message) :
    q.SameIntake (q.handle b m).2.1 := by
  cases m with
  | barrier t => exact .refl q
  | write op =>
    change q.SameIntake (q.handleWrite b op).1
    rw [handleWrite]
    split
    · exact ⟨rfl, rfl, rfl, rfl, rfl, rfl, rfl⟩
    · obtain ⟨q', tried, counted, -⟩ := q.attempt_eq b ⟨op, 0⟩
      rw [tried]
      have same := counted.sameIntake
      by_cases closes : (Attempt.make b ⟨op, 0⟩).closes = true
      · rw [if_pos closes]
        exact same
      · rw [if_neg closes]
        exact ⟨same.channel, same.granted, same.waiting, same.capacity, same.attached,
          same.disabled, same.depth⟩

theorem sameIntake_retry (q : WriteQueue) (b : Backend) : q.SameIntake (q.retry b).1 := by
  obtain ⟨-, -, counted⟩ := q.round_retries b
  have same := counted.sameIntake
  rw [retry_eq]
  exact ⟨same.channel, same.granted, same.waiting, same.capacity, same.attached, same.disabled,
    same.depth⟩

theorem intake_taken (q : WriteQueue) (rest : List Message) :
    (q.taken rest).depth = q.depth - 1 ∧
      (q.taken rest).disabled = (q.disabled && q.depth != 1) ∧
      (q.taken rest).attached = q.attached ∧ (q.taken rest).capacity = q.capacity := by
  unfold taken grantRoom
  split <;> exact ⟨rfl, rfl, rfl, rfl⟩

@[simp] theorem attached_enqueue (q : WriteQueue) (op : WriteOp) :
    (q.enqueue op).2.attached = q.attached := by
  rcases q.enqueue_cases op with ⟨-, after⟩ | ⟨-, _, _, after, -⟩ <;> rw [after]

@[simp] theorem attached_askRoom (q : WriteQueue) (t : Ticket) :
    (q.askRoom t).attached = q.attached := by
  unfold askRoom
  split
  · rfl
  · split <;> rfl

@[simp] theorem attached_send (q : WriteQueue) (t : Ticket) : (q.send t).attached = q.attached := by
  unfold send
  split <;> rfl

@[simp] theorem attached_work (q : WriteQueue) (b : Backend) :
    (q.work b).1.attached = q.attached := by
  cases first : q.channel with
  | nil => rw [work_of_nil first]
  | cons m rest =>
    rw [work_of_cons first, (sameIntake_handle _ b m).attached]
    exact (q.intake_taken rest).2.2.1

end WriteQueue

inductive TrafficStep where
  | enqueue (op : WriteOp)
  | flush
  | ask (ticket : Ticket)
  | send (ticket : Ticket)
  | work (b : Backend)
  | retry (b : Backend)

/-- The ticket of a flush is the number of those before it. Flushes are `called` until they ask for
room, and `returned` if they returned true. -/
structure Traffic extends Ledger where
  flushes : Nat := 0
  called : List Ticket := []
  returned : List Ticket := []

namespace Traffic

def start (capacity : Nat) (attached : Bool) : Traffic where
  toLedger := .start capacity attached

def after (l : Traffic) : TrafficStep → Traffic
  | .enqueue op => { l with toLedger := l.toLedger.after (.enqueue op) }
  | .flush =>
    { l with
      queue := l.queue.countFlush
      flushes := l.flushes + 1
      called := l.called ++ [l.flushes] }
  | .ask t =>
    if t ∈ l.called then { l with queue := l.queue.askRoom t, called := l.called.erase t } else l
  | .send t => { l with queue := l.queue.send t }
  | .work b =>
    { l with
      toLedger := l.toLedger.after (.work b)
      returned := l.returned ++ (l.queue.completes b).toList }
  | .retry b => { l with toLedger := l.toLedger.after (.retry b) }

def run (l : Traffic) (steps : List TrafficStep) : Traffic :=
  steps.foldl after l

def unsent (l : Traffic) : List Ticket :=
  l.called ++ l.queue.waiting ++ l.queue.granted

def sent (l : Traffic) : List Message :=
  l.received ++ l.queue.channel

variable (l : Traffic)

theorem attached_after (step : TrafficStep) :
    (l.after step).queue.attached = l.queue.attached := by
  cases step with
  | enqueue op => exact l.queue.attached_enqueue op
  | flush => rfl
  | ask t =>
    rw [after]
    split
    · exact l.queue.attached_askRoom t
    · rfl
  | send t => exact l.queue.attached_send t
  | work b => exact l.queue.attached_work b
  | retry b => exact (l.queue.sameIntake_retry b).attached

theorem run_induction {P : Traffic → Prop} {l : Traffic} (start : P l)
    (step : ∀ l s, P l → P (l.after s)) (steps : List TrafficStep) : P (l.run steps) := by
  induction steps generalizing l with
  | nil => exact start
  | cons s steps ih => exact ih (step l s start)

end Traffic

end SessionGateway
