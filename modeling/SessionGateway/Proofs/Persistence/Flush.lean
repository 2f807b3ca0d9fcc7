import SessionGateway.Proofs.Persistence.Traffic
import SessionGateway.Proofs.Persistence.Tried

/-! What a flush promises. Its barrier follows every message that was sent before, so when it
returns true the worker has taken the writes that were accepted before it was called. Of these it
has tried those with no earlier write of their session left; a write behind one that failed waits
with it, and the flush does not wait for either. -/

namespace SessionGateway

open WriteOp Attempt

namespace WriteQueue

theorem mem_take_of_completes {q : WriteQueue} {b : Backend} {t : Ticket}
    (done : q.completes b = some t) : .barrier t ∈ q.channel.take 1 := by
  unfold completes receive at done
  split at done
  · cases done
  · next m rest first =>
    rw [first]
    cases m with
    | write op => cases done
    | barrier t' =>
      cases done
      exact List.mem_cons_self

def asking (q : WriteQueue) : List Ticket :=
  q.waiting ++ q.granted

section asking

variable {q q' : WriteQueue} {t u : Ticket}

theorem SameIntake.asking (same : q.SameIntake q') : q'.asking = q.asking := by
  rw [WriteQueue.asking, WriteQueue.asking, same.waiting, same.granted]

@[simp] theorem asking_enqueue (q : WriteQueue) (op : WriteOp) :
    (q.enqueue op).2.asking = q.asking := by
  rcases q.enqueue_cases op with ⟨-, after⟩ | ⟨-, _, _, after, -⟩ <;> rw [after] <;> rfl

theorem mem_asking_askRoom (member : u ∈ (q.askRoom t).asking) : u = t ∨ u ∈ q.asking := by
  unfold askRoom at member
  split at member
  · exact .inr member
  · split at member
    · rw [asking, ← List.append_assoc] at member
      exact (List.mem_append.mp member).symm.imp_left List.mem_singleton.mp
    · simp only [asking, List.mem_append, List.mem_singleton] at member ⊢
      grind

theorem mem_asking_send (member : u ∈ (q.send t).asking) : u ∈ q.asking := by
  unfold send at member
  split at member
  · exact (List.Sublist.append_left List.erase_sublist _).mem member
  · exact member

theorem mem_asking_work (b : Backend) (member : u ∈ (q.work b).1.asking) : u ∈ q.asking := by
  cases first : q.channel with
  | nil => rwa [work_of_nil first] at member
  | cons m rest =>
    rw [work_of_cons first, (sameIntake_handle _ b m).asking, taken, grantRoom] at member
    split at member
    · exact member
    · next t others waiting =>
      change q.waiting = t :: others at waiting
      rw [asking, waiting]
      simp only [asking, countTaken, List.mem_append, List.mem_cons] at member ⊢
      grind

end asking

theorem sameWrites_askRoom (q : WriteQueue) (t : Ticket) : q.SameWrites (q.askRoom t) := by
  unfold askRoom
  split
  · exact ⟨rfl, rfl, rfl, rfl⟩
  · split <;> exact ⟨rfl, rfl, rfl, rfl⟩

theorem sameWrites_send (q : WriteQueue) (t : Ticket) : q.SameWrites (q.send t) := by
  unfold send
  split
  · refine ⟨rfl, ?_, rfl, rfl⟩
    simp [waitingWrites, Message.op?]
  · exact ⟨rfl, rfl, rfl, rfl⟩

end WriteQueue

namespace Traffic

variable {l : Traffic}

theorem sent_after (l : Traffic) (step : TrafficStep) :
    ∃ new, (l.after step).sent = l.sent ++ new ∧ ∀ t, .barrier t ∈ new → t ∈ l.unsent := by
  have still {l' : Traffic} (received : l'.received = l.received)
      (channel : l'.queue.channel = l.queue.channel) :
      ∃ new, l'.sent = l.sent ++ new ∧ ∀ t, .barrier t ∈ new → t ∈ l.unsent :=
    ⟨[], by simp [sent, received, channel], by simp⟩
  cases step with
  | enqueue op =>
    have channel := l.queue.channel_enqueue op
    by_cases yes : (l.queue.enqueue op).1 = true
    · rw [if_pos yes] at channel
      refine ⟨[.write op], ?_, by simp⟩
      change l.received ++ (l.queue.enqueue op).2.channel = _
      rw [channel, sent, List.append_assoc]
    · rw [if_neg yes] at channel
      exact still rfl channel
  | flush => exact still rfl rfl
  | ask t =>
    rw [after]
    split
    · refine still rfl ?_
      change (l.queue.askRoom t).channel = _
      unfold WriteQueue.askRoom
      split
      · rfl
      · split <;> rfl
    · exact still rfl rfl
  | send t =>
    by_cases member : t ∈ l.queue.granted
    · refine ⟨[.barrier t], ?_, ?_⟩
      · change l.received ++ (l.queue.send t).channel = _
        rw [WriteQueue.send, if_pos member, sent, List.append_assoc]
      · intro t' same
        cases List.mem_singleton.mp same
        simp [unsent, member]
    · refine still rfl ?_
      change (l.queue.send t).channel = _
      rw [WriteQueue.send, if_neg member]
  | work b =>
    refine ⟨[], ?_, by simp⟩
    change l.received ++ l.queue.channel.take 1 ++ (l.queue.work b).1.channel = _
    rw [List.append_assoc, ← l.queue.channel_work b, List.append_nil]
    rfl
  | retry b => exact still rfl (l.queue.channel_retry b)

theorem sent_run (l : Traffic) (steps : List TrafficStep) : l.sent <+: (l.run steps).sent := by
  refine run_induction (P := fun l' => l.sent <+: l'.sent) (List.prefix_rfl) ?_ steps
  intro l' step start
  obtain ⟨new, sent, -⟩ := l'.sent_after step
  exact start.trans (sent ▸ List.prefix_append ..)

theorem mem_unsent {t : Ticket} : t ∈ l.unsent ↔ t ∈ l.called ∨ t ∈ l.queue.asking := by
  rw [unsent, List.append_assoc, List.mem_append]
  rfl

theorem unsent_after (l : Traffic) (step : TrafficStep) {t : Ticket}
    (member : t ∈ (l.after step).unsent) : t ∈ l.unsent ∨ step = .flush ∧ t = l.flushes := by
  rw [mem_unsent] at member ⊢
  cases step with
  | enqueue op => exact .inl (member.imp_right (l.queue.asking_enqueue op ▸ ·))
  | flush =>
    rcases member with called | asking
    · rcases List.mem_append.mp called with before | new
      · exact .inl (.inl before)
      · exact .inr ⟨rfl, List.mem_singleton.mp new⟩
    · exact .inl (.inr asking)
  | ask t' =>
    rw [after] at member
    split at member
    · next asks =>
      rcases member with called | asking
      · exact .inl (.inl (List.mem_of_mem_erase called))
      · rcases WriteQueue.mem_asking_askRoom asking with rfl | before
        · exact .inl (.inl asks)
        · exact .inl (.inr before)
    · exact .inl member
  | send t' => exact .inl (member.imp_right WriteQueue.mem_asking_send)
  | work b => exact .inl (member.imp_right (WriteQueue.mem_asking_work b))
  | retry b => exact .inl (member.imp_right ((l.queue.sameIntake_retry b).asking ▸ ·))

theorem flushes_after (l : Traffic) (step : TrafficStep) :
    l.flushes ≤ (l.after step).flushes := by
  cases step with
  | flush => exact Nat.le_succ _
  | ask t =>
    rw [after]
    split <;> exact Nat.le_refl _
  | _ => exact Nat.le_refl _

theorem returned_after (l : Traffic) (step : TrafficStep) {t : Ticket}
    (member : t ∈ (l.after step).returned) :
    t ∈ l.returned ∨ .barrier t ∈ (l.after step).received := by
  cases step with
  | work b =>
    rcases List.mem_append.mp member with before | new
    · exact .inl before
    · have done := WriteQueue.mem_take_of_completes (Option.mem_toList.mp new)
      exact .inr (List.mem_append_right _ done)
  | ask t =>
    rw [after] at member
    split at member <;> exact .inl member
  | _ => exact .inl member

theorem received_after (l : Traffic) (step : TrafficStep) :
    l.received <+: (l.after step).received := by
  cases step with
  | work b => exact List.prefix_append ..
  | ask t =>
    rw [after]
    split <;> exact List.prefix_rfl
  | _ => exact List.prefix_rfl

theorem balanced_after (h : l.toLedger.Balanced) (step : TrafficStep) :
    (l.after step).toLedger.Balanced := by
  cases step with
  | enqueue op => exact h.enqueue op
  | flush => exact h.barriers ⟨rfl, rfl, rfl, rfl⟩
  | ask t =>
    rw [after]
    split
    · exact h.barriers (l.queue.sameWrites_askRoom t)
    · exact h
  | send t => exact h.barriers (l.queue.sameWrites_send t)
  | work b => exact h.after (.work b)
  | retry b => exact h.after (.retry b)

theorem headsTried_after (h : l.queue.HeadsTried l.attempts) (step : TrafficStep) :
    (l.after step).queue.HeadsTried (l.after step).attempts := by
  cases step with
  | enqueue op =>
    change ∀ w ∈ (l.queue.enqueue op).2.retries, _
    rw [l.queue.retries_enqueue]
    exact h
  | flush => exact h
  | ask t =>
    rw [after]
    split
    · change ∀ w ∈ (l.queue.askRoom t).retries, _
      rw [(l.queue.sameWrites_askRoom t).retries]
      exact h
    · exact h
  | send t =>
    change ∀ w ∈ (l.queue.send t).retries, _
    rw [(l.queue.sameWrites_send t).retries]
    exact h
  | work b => exact h.work b
  | retry b => exact l.queue.headsTried_retry l.attempts b

/-- What is known of a run about its flushes: each has a ticket of its own, and returned true only
after the worker had taken its barrier. -/
structure Tracked (l : Traffic) : Prop where
  balanced : l.toLedger.Balanced
  heads : l.queue.HeadsTried l.attempts
  unsent : ∀ t ∈ l.unsent, t < l.flushes
  sent : ∀ t, .barrier t ∈ l.sent → t < l.flushes
  returned : ∀ t ∈ l.returned, .barrier t ∈ l.received

theorem tracked_start (capacity : Nat) (attached : Bool) : (start capacity attached).Tracked where
  balanced := .start capacity attached
  heads _ member := absurd member List.not_mem_nil
  unsent _ member := absurd member List.not_mem_nil
  sent _ member := absurd member List.not_mem_nil
  returned _ member := absurd member List.not_mem_nil

theorem Tracked.after (h : l.Tracked) (step : TrafficStep) : (l.after step).Tracked := by
  have grows := l.flushes_after step
  refine ⟨balanced_after h.balanced step, headsTried_after h.heads step, fun t member => ?_,
    fun t member => ?_, fun t member => ?_⟩
  · rcases l.unsent_after step member with before | ⟨rfl, rfl⟩
    · exact Nat.lt_of_lt_of_le (h.unsent t before) grows
    · exact Nat.lt_succ_self _
  · obtain ⟨new, sent, fromFlush⟩ := l.sent_after step
    rw [sent] at member
    have before : t < l.flushes := by
      rcases List.mem_append.mp member with before | new
      · exact h.sent t before
      · exact h.unsent t (fromFlush t new)
    exact Nat.lt_of_lt_of_le before grows
  · rcases l.returned_after step member with before | now
    · exact (l.received_after step).mem (h.returned t before)
    · exact now

theorem Tracked.run (h : l.Tracked) (steps : List TrafficStep) : (l.run steps).Tracked :=
  run_induction h (fun _ step h => h.after step) steps

theorem received_of_returned (h : l.Tracked) (later : List TrafficStep)
    (returned : l.flushes ∈ ((l.after .flush).run later).returned) :
    l.sent <+: ((l.after .flush).run later).received := by
  let l' := (l.after .flush).run later
  have tracked : l'.Tracked := (h.after .flush).run later
  have sent : l.sent <+: l'.sent := (l.after .flush).sent_run later
  have received : l'.received <+: l'.sent := List.prefix_append ..
  rcases List.prefix_or_prefix_of_prefix sent received with all | some
  · exact all
  · -- The barrier would have been sent before the flush was called.
    have barrier := some.mem (tracked.returned _ returned)
    exact absurd (h.sent _ barrier) (Nat.lt_irrefl _)

def taken (l : Traffic) : List WriteOp :=
  l.received.filterMap Message.op?

theorem Tracked.stuck (h : l.Tracked) {u : Uuid}
    (left : place u l.attempts < (ofSession u l.taken).length) : Stuck u l.attempts := by
  have all := h.balanced.order u
  rw [h.balanced.channel, WriteQueue.pending_eq, ofSession_append, ofSession_append,
    ← List.append_assoc] at all
  have split : ofSession u l.taken =
      ofSession u (closed l.attempts) ++ ofSession u (l.queue.retries.map (·.op)) :=
    List.append_cancel_right all
  have some : ofSession u (l.queue.retries.map (·.op)) ≠ [] := by
    intro none
    rw [split, none, List.append_nil, place] at left
    exact Nat.lt_irrefl _ left
  obtain ⟨op, member⟩ := List.exists_mem_of_ne_nil _ some
  obtain ⟨kept, rfl⟩ := mem_ofSession.mp member
  obtain ⟨w, waits, rfl⟩ := List.mem_map.mp kept
  exact h.heads w waits

/-- A flush that returned true was called in `before`. The worker has taken every write that was
accepted until then, so those that wait in the channel are later ones. Of the writes accepted until
then, one was tried exactly if the earlier ones of its session are over with. -/
theorem tried_after_flush_iff (capacity : Nat) (attached : Bool) (steps later : List TrafficStep) :
    let before := (start capacity attached).run steps
    let l := (before.after .flush).run later
    before.flushes ∈ l.returned →
      (∃ since, l.accepted = before.accepted ++ since ++ l.queue.waitingWrites) ∧
      ∀ u n, n < (ofSession u before.accepted).length →
        (l.Tried u n ↔ n ≤ place u l.attempts) := by
  intro before l returned
  have trackedBefore : before.Tracked := (tracked_start capacity attached).run steps
  have tracked : l.Tracked := (trackedBefore.after .flush).run later
  have accepted : before.accepted = before.sent.filterMap Message.op? := by
    rw [sent, List.filterMap_append]
    exact trackedBefore.balanced.channel
  obtain ⟨since, received⟩ := received_of_returned trackedBefore later returned
  have taken : l.taken = before.accepted ++ since.filterMap Message.op? := by
    rw [Traffic.taken, accepted, ← List.filterMap_append, received]
  refine ⟨⟨since.filterMap Message.op?, ?_⟩, fun u n small => ?_⟩
  · rw [← taken]
    exact tracked.balanced.channel
  · rw [tracked.balanced.tried_iff, reach_iff]
    constructor
    · rintro (closed | ⟨next, -⟩)
      · exact Nat.le_of_lt closed
      · exact Nat.le_of_eq next
    · intro atMost
      rcases Nat.lt_or_eq_of_le atMost with closed | rfl
      · exact .inl closed
      · refine .inr ⟨rfl, tracked.stuck ?_⟩
        rw [taken, ofSession_append, List.length_append]
        exact Nat.lt_of_lt_of_le small (Nat.le_add_right _ _)

theorem not_tried_after_flush :
    let r : SessionRecord := ⟨.zero, "", .epoch, .epoch, .epoch, [], false⟩
    let failing : Backend := { faults := fun _ _ => some (.error (.unavailable "")) }
    let offered : List TrafficStep := [.enqueue (.put r), .enqueue (.delete .zero)]
    let before := (start 4 true).run offered
    let l := (before.after .flush).run
      [.ask 0, .send 0, .work failing, .work {}, .work {}]
    before.accepted = [.put r, .delete .zero] ∧ before.flushes ∈ l.returned ∧
      (∃ since, l.accepted = [.put r, .delete .zero] ++ since ++ l.queue.waitingWrites) ∧
      l.Tried .zero 0 ∧ ¬ l.Tried .zero 1 := by
  intro r failing offered before l
  have accepted : before.accepted = [.put r, .delete .zero] := rfl
  have returned : before.flushes ∈ l.returned := by decide +kernel
  have failed : place .zero l.attempts = 0 := by decide +kernel
  obtain ⟨taken, tried⟩ := tried_after_flush_iff 4 true offered
    [.ask 0, .send 0, .work failing, .work {}, .work {}] returned
  refine ⟨accepted, returned, accepted ▸ taken, (tried .zero 0 ?_).mpr (Nat.zero_le _), ?_⟩
  · decide +kernel
  · rw [tried .zero 1 (by decide +kernel)]
    change ¬ 1 ≤ place .zero l.attempts
    rw [failed]
    exact Nat.not_succ_le_zero 0

end Traffic

end SessionGateway
