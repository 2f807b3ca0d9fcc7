import SessionGateway.Proofs.Persistence.Journal

/-! The attempts that a step of the worker makes: at most one when it takes a message, and when it
goes through the pending writes one at each that is not behind another of its session. What
operators see of a step is a tally of its attempts. -/

namespace SessionGateway

open WriteOp Attempt

namespace WriteQueue

/-- The writes that are not done with. Those of one session stand in the order in which they are to
be tried. -/
def pending (q : WriteQueue) : List WriteOp :=
  q.retries.map (·.op) ++ q.channel.filterMap Message.op?

def work (q : WriteQueue) (b : Backend) : WriteQueue × Backend :=
  match q.receive with
  | none => (q, b)
  | some (m, q) => (q.handle b m).2

/-- Two queues that differ in what operators see of the attempts, at most. -/
structure Counted (q q' : WriteQueue) : Prop where
  channel : q'.channel = q.channel
  retries : q'.retries = q.retries
  granted : q'.granted = q.granted
  waiting : q'.waiting = q.waiting
  capacity : q'.capacity = q.capacity
  attached : q'.attached = q.attached
  disabled : q'.disabled = q.disabled
  depth : q'.depth = q.depth

theorem Counted.refl (q : WriteQueue) : q.Counted q :=
  ⟨rfl, rfl, rfl, rfl, rfl, rfl, rfl, rfl⟩

theorem Counted.trans {p q r : WriteQueue} (h : p.Counted q) (h' : q.Counted r) : p.Counted r :=
  ⟨h'.channel.trans h.channel, h'.retries.trans h.retries, h'.granted.trans h.granted,
    h'.waiting.trans h.waiting, h'.capacity.trans h.capacity, h'.attached.trans h.attached,
    h'.disabled.trans h.disabled, h'.depth.trans h.depth⟩

structure Tally (q : WriteQueue) (as : List Attempt) (q' : WriteQueue) : Prop where
  completed : q'.completed = q.completed + (applied as).length
  dropped : q'.dropped = q.dropped + (lost as).length

theorem Tally.refl (q : WriteQueue) : q.Tally [] q :=
  ⟨rfl, rfl⟩

theorem Tally.trans {p q r : WriteQueue} {as as' : List Attempt} (h : p.Tally as q)
    (h' : q.Tally as' r) : p.Tally (as ++ as') r := by
  refine ⟨?_, ?_⟩
  · rw [h'.completed, h.completed, applied_append, List.length_append, Nat.add_assoc]
  · rw [h'.dropped, h.dropped, lost_append, List.length_append, Nat.add_assoc]

def workAttempts (q : WriteQueue) (b : Backend) : List Attempt :=
  match q.channel with
  | .write op :: _ => if q.isBlocked op.uuid then [] else [.make b ⟨op, 0⟩]
  | _ => []

/-- The attempts of a round at pending writes; a write that has to be tried again blocks its
session. -/
def roundAttempts (blocked : List Uuid) (b : Backend) : List PendingWrite → List Attempt
  | [] => []
  | w :: ws =>
    if w.op.uuid ∈ blocked then roundAttempts blocked b ws
    else
      let a := Attempt.make b w
      a :: roundAttempts (if a.closes then blocked else w.op.uuid :: blocked) (w.op.apply b).2 ws

def retryAttempts (q : WriteQueue) (b : Backend) : List Attempt :=
  roundAttempts [] b q.retries

theorem attempt_eq (q : WriteQueue) (b : Backend) (w : PendingWrite) :
    ∃ q', q.attempt b w =
        (if (Attempt.make b w).closes then none else some { w with attempts := w.attempts + 1 },
          q', (w.op.apply b).2) ∧
      q.Counted q' ∧ q.Tally [.make b w] q' := by
  unfold attempt Attempt.make
  cases w.op.apply b with
  | mk reply b' =>
    cases reply with
    | done x => exact ⟨_, rfl, ⟨rfl, rfl, rfl, rfl, rfl, rfl, rfl, rfl⟩, rfl, rfl⟩
    | failed f =>
      cases f with
      | crash text => exact ⟨_, rfl, ⟨rfl, rfl, rfl, rfl, rfl, rfl, rfl, rfl⟩, rfl, rfl⟩
      | error e =>
        have failed : applied [⟨w, .failed (.error e)⟩] = [] := rfl
        by_cases often : maxAttempts ≤ w.attempts + 1
        · have given_up : lost [⟨w, .failed (.error e)⟩] = [w.op] := by
            simp [lost, loses, closes, succeeded, often, op]
          refine ⟨q.drop.recordFailure e.message, by simp [closes, often],
            ⟨rfl, rfl, rfl, rfl, rfl, rfl, rfl, rfl⟩, ?_, ?_⟩
          · rw [failed]
            rfl
          · rw [given_up]
            rfl
        · have kept : lost [⟨w, .failed (.error e)⟩] = [] := by simp [lost, loses, closes, often]
          refine ⟨q.recordFailure e.message, by simp [closes, often],
            ⟨rfl, rfl, rfl, rfl, rfl, rfl, rfl, rfl⟩, ?_, ?_⟩
          · rw [failed]
            rfl
          · rw [kept]
            rfl

section round

variable {blocked : List Uuid} {q : WriteQueue} {b : Backend} {ws : List PendingWrite}

theorem retryList_cons_blocked {w : PendingWrite} (h : w.op.uuid ∈ blocked) :
    retryList blocked q b (w :: ws) =
      (w :: (retryList blocked q b ws).1, (retryList blocked q b ws).2) := by
  rw [retryList, if_pos h]

theorem retryList_cons_none {w : PendingWrite} {q' : WriteQueue} {b' : Backend}
    (h : w.op.uuid ∉ blocked) (tried : q.attempt b w = (none, q', b')) :
    retryList blocked q b (w :: ws) = retryList blocked q' b' ws := by
  rw [retryList, if_neg h, tried]

theorem retryList_cons_some {w w' : PendingWrite} {q' : WriteQueue} {b' : Backend}
    (h : w.op.uuid ∉ blocked) (tried : q.attempt b w = (some w', q', b')) :
    retryList blocked q b (w :: ws) =
      (w' :: (retryList (w'.op.uuid :: blocked) q' b' ws).1,
        (retryList (w'.op.uuid :: blocked) q' b' ws).2) := by
  rw [retryList, if_neg h, tried]

theorem trials_retryList {front : List WriteOp} (waiting : ∀ op ∈ front, op.uuid ∈ blocked)
    (tail : List WriteOp) :
    let r := retryList blocked q b ws
    let as := roundAttempts blocked b ws
    Trials (front ++ (ws.map (·.op) ++ tail)) b as (front ++ (r.1.map (·.op) ++ tail)) r.2.2 ∧
      q.Tally as r.2.1 ∧ q.Counted r.2.1 := by
  induction ws generalizing blocked front q b with
  | nil => exact ⟨.nil, .refl q, .refl q⟩
  | cons w ws ih =>
    have longer {blocked' : List Uuid} (more : ∀ v ∈ blocked, v ∈ blocked')
        (mine : w.op.uuid ∈ blocked') : ∀ op ∈ front ++ [w.op], op.uuid ∈ blocked' := by
      intro op member
      rcases List.mem_append.mp member with old | new
      · exact more _ (waiting op old)
      · obtain rfl := List.mem_singleton.mp new
        exact mine
    by_cases hw : w.op.uuid ∈ blocked
    · rw [retryList_cons_blocked hw, roundAttempts, if_pos hw]
      simpa using ih (longer (fun _ member => member) hw)
    · have first : ∀ op ∈ front, op.uuid ≠ w.op.uuid :=
        fun op member same => hw (same ▸ waiting op member)
      have trial : Trial (front ++ w.op :: (ws.map (·.op) ++ tail)) b (.make b w) _
        (w.op.apply b).2 := .made rfl first rfl
      obtain ⟨q', tried, counted, tally⟩ := q.attempt_eq b w
      rw [roundAttempts, if_neg hw]
      by_cases closes : (Attempt.make b w).closes = true
      · rw [if_pos closes] at tried trial
        rw [retryList_cons_none hw tried]
        obtain ⟨rest, counts, same⟩ := ih waiting
        simp only [if_pos closes]
        exact ⟨.cons trial rest, tally.trans counts, counted.trans same⟩
      · rw [if_neg closes] at tried trial
        rw [retryList_cons_some hw tried]
        obtain ⟨rest, counts, same⟩ :=
          ih (longer (fun _ => List.mem_cons_of_mem _) List.mem_cons_self)
        simp only [if_neg closes]
        refine ⟨.cons trial ?_, tally.trans counts, counted.trans same⟩
        simpa using rest

end round

section retry

variable (q : WriteQueue) (b : Backend)

theorem round_retries :
    let r := retryList [] { q with retries := [] } b q.retries
    Trials q.pending b (q.retryAttempts b) (r.1.map (·.op) ++ q.channel.filterMap Message.op?) r.2.2 ∧
      { q with retries := [] }.Tally (q.retryAttempts b) r.2.1 ∧
      { q with retries := [] }.Counted r.2.1 := by
  have nothing : ∀ op ∈ ([] : List WriteOp), op.uuid ∈ ([] : List Uuid) := by simp
  exact trials_retryList nothing _

theorem retry_eq :
    q.retry b =
      let r := retryList [] { q with retries := [] } b q.retries
      ({ r.2.1 with retries := r.1 }, r.2.2) := by
  obtain ⟨-, -, counted⟩ := q.round_retries b
  unfold retry
  simp only [counted.retries, List.append_nil]

theorem channel_retry : (q.retry b).1.channel = q.channel := by
  obtain ⟨-, -, counted⟩ := q.round_retries b
  rw [retry_eq]
  exact counted.channel

theorem trials_retry :
    Trials q.pending b (q.retryAttempts b) (q.retry b).1.pending (q.retry b).2 ∧
      q.Tally (q.retryAttempts b) (q.retry b).1 := by
  obtain ⟨trials, tally, counted⟩ := q.round_retries b
  rw [retry_eq]
  refine ⟨?_, tally.completed, tally.dropped⟩
  simpa [pending, counted.channel] using trials

end retry

section work

variable {q : WriteQueue} {b : Backend}

theorem work_of_nil (h : q.channel = []) : q.work b = (q, b) := by
  rw [work, receive, h]

def taken (q : WriteQueue) (rest : List Message) : WriteQueue :=
  ({ q with channel := rest }.countTaken).grantRoom

theorem work_of_cons {m : Message} {rest : List Message} (h : q.channel = m :: rest) :
    q.work b = ((q.taken rest).handle b m).2 := by
  rw [work, receive, h]
  rfl

@[simp] theorem channel_taken (q : WriteQueue) (rest : List Message) :
    (q.taken rest).channel = rest := by
  unfold taken grantRoom
  split <;> rfl

@[simp] theorem retries_taken (q : WriteQueue) (rest : List Message) :
    (q.taken rest).retries = q.retries := by
  unfold taken grantRoom
  split <;> rfl

theorem pending_of_cons {m : Message} {rest : List Message} (h : q.channel = m :: rest) :
    q.pending = q.retries.map (·.op) ++ (m.op?.toList ++ rest.filterMap Message.op?) := by
  rw [pending, h]
  cases m <;> rfl

theorem handleWrite_of_blocked {op : WriteOp} (h : q.isBlocked op.uuid = true) :
    q.handleWrite b op = (q.keep ⟨op, 0⟩, b) := by
  rw [handleWrite, if_pos h]

theorem isBlocked_eq_false {u : Uuid} (h : ¬ q.isBlocked u = true) :
    ∀ op ∈ q.retries.map (·.op), op.uuid ≠ u := by
  intro op member same
  obtain ⟨w, hw, rfl⟩ := List.mem_map.mp member
  exact h (List.any_eq_true.mpr ⟨w, hw, by simpa using same⟩)

@[simp] theorem pending_keep (q : WriteQueue) (w : PendingWrite) :
    (q.keep w).pending =
      q.retries.map (·.op) ++ (w.op :: q.channel.filterMap Message.op?) := by
  simp [pending, keep]

theorem tally_taken (q : WriteQueue) (rest : List Message) : q.Tally [] (q.taken rest) := by
  unfold taken grantRoom
  split <;> exact ⟨rfl, rfl⟩

theorem tally_keep (q : WriteQueue) (w : PendingWrite) : q.Tally [] (q.keep w) :=
  ⟨rfl, rfl⟩

theorem trials_handleWrite {q : WriteQueue} {rest : List Message} {op : WriteOp}
    (h : q.channel = .write op :: rest) (b : Backend) :
    let r := (q.taken rest).handleWrite b op
    Trials q.pending b (q.workAttempts b) r.1.pending r.2 ∧ q.Tally (q.workAttempts b) r.1 := by
  have blocked_iff : (q.taken rest).isBlocked op.uuid = q.isBlocked op.uuid := by
    rw [isBlocked, isBlocked, retries_taken]
  have before : q.pending = q.retries.map (·.op) ++ op :: rest.filterMap Message.op? := by
    rw [pending_of_cons h]
    rfl
  have taken := q.tally_taken rest
  rw [workAttempts, h]
  dsimp only
  by_cases blocked : q.isBlocked op.uuid = true
  · rw [if_pos blocked, handleWrite_of_blocked (blocked_iff.trans blocked)]
    refine ⟨?_, taken.trans (tally_keep _ _)⟩
    rw [pending_keep, channel_taken, retries_taken, ← before]
    exact .nil
  · obtain ⟨q', tried, counted, tally⟩ := (q.taken rest).attempt_eq b ⟨op, 0⟩
    have trial := Trial.made (a := .make b ⟨op, 0⟩) before (isBlocked_eq_false blocked) rfl
    rw [if_neg blocked, handleWrite, blocked_iff, if_neg blocked, tried]
    by_cases closes : (Attempt.make b ⟨op, 0⟩).closes = true
    · rw [if_pos closes] at trial ⊢
      refine ⟨.cons trial ?_, taken.trans tally⟩
      have after : q'.pending = q.retries.map (·.op) ++ rest.filterMap Message.op? := by
        simp [pending, counted.channel, counted.retries]
      rw [← after]
      exact .nil
    · rw [if_neg closes] at trial ⊢
      refine ⟨.cons trial ?_, (taken.trans tally).trans (tally_keep _ _)⟩
      dsimp only
      rw [pending_keep, counted.channel, counted.retries, channel_taken, retries_taken, ← before]
      exact .nil

theorem trials_work (q : WriteQueue) (b : Backend) :
    Trials q.pending b (q.workAttempts b) (q.work b).1.pending (q.work b).2 ∧
      q.Tally (q.workAttempts b) (q.work b).1 := by
  cases h : q.channel with
  | nil =>
    rw [work_of_nil h, workAttempts, h]
    exact ⟨.nil, .refl q⟩
  | cons m rest =>
    rw [work_of_cons h]
    cases m with
    | write op => exact trials_handleWrite h b
    | barrier t =>
      have same : (q.taken rest).pending = q.pending := by
        rw [pending_of_cons h]
        simp [pending, Message.op?]
      rw [workAttempts, h]
      refine ⟨?_, q.tally_taken rest⟩
      simp only [handle, same]
      exact .nil

theorem channel_handleWrite (q : WriteQueue) (b : Backend) (op : WriteOp) :
    (q.handleWrite b op).1.channel = q.channel := by
  rw [handleWrite]
  split
  · rfl
  · obtain ⟨q', tried, counted, -⟩ := q.attempt_eq b ⟨op, 0⟩
    rw [tried]
    by_cases closes : (Attempt.make b ⟨op, 0⟩).closes = true
    · rw [if_pos closes]
      exact counted.channel
    · rw [if_neg closes]
      exact counted.channel

theorem channel_work (q : WriteQueue) (b : Backend) :
    q.channel = q.channel.take 1 ++ (q.work b).1.channel := by
  cases h : q.channel with
  | nil => rw [work_of_nil h, h, List.take_nil, List.nil_append]
  | cons m rest =>
    rw [work_of_cons h]
    cases m with
    | write op => simp [handle, channel_handleWrite]
    | barrier t => simp [handle]

end work

end WriteQueue

end SessionGateway
