import SessionGateway.Proofs.Persistence.Backlog

/-! The retry list through the steps of a queue. Each round of the worker spends some of the
attempts that are left, so a list that nothing joins runs empty, whether the store recovers or not.
-/

namespace SessionGateway

open WriteOp Attempt PendingWrite

namespace WriteQueue

theorem row_retryList {blocked : List Uuid} {front : List PendingWrite}
    (waiting : ∀ w ∈ front, w.op.uuid ∈ blocked) (q : WriteQueue) (b : Backend)
    (ws : List PendingWrite) :
    Row (front ++ ws) (roundAttempts blocked b ws) (front ++ (retryList blocked q b ws).1) := by
  induction ws generalizing blocked front q b with
  | nil => exact .nil
  | cons w ws ih =>
    have longer {blocked' : List Uuid} (more : ∀ v ∈ blocked, v ∈ blocked') (v : PendingWrite)
        (mine : v.op.uuid ∈ blocked') : ∀ w ∈ front ++ [v], w.op.uuid ∈ blocked' :=
      List.forall_mem_append.mpr ⟨fun w member => more _ (waiting w member), by simpa using mine⟩
    by_cases hw : w.op.uuid ∈ blocked
    · rw [retryList_cons_blocked hw, roundAttempts, if_pos hw]
      simpa using ih (longer (fun _ member => member) w hw) q b
    · have first : ∀ v ∈ front, v.op.uuid ≠ w.op.uuid :=
        fun v member same => hw (same ▸ waiting v member)
      obtain ⟨q', tried, -, -⟩ := q.attempt_eq b w
      rw [roundAttempts, if_neg hw]
      refine Row.cons (a := .make b w) first ?_
      by_cases closes : (Attempt.make b w).closes = true
      · rw [if_pos closes] at tried
        rw [retryList_cons_none hw tried, left, if_pos closes, if_pos closes]
        exact ih waiting q' (w.op.apply b).2
      · rw [if_neg closes] at tried
        rw [retryList_cons_some hw tried, left, if_neg closes, if_neg closes]
        have rest := ih (longer (fun _ => List.mem_cons_of_mem _) ⟨w.op, w.attempts + 1⟩
          List.mem_cons_self) q' (w.op.apply b).2
        simpa [again, Attempt.make] using rest

variable (q : WriteQueue) (b : Backend)

theorem row_retry : Row q.retries (q.retryAttempts b) (q.retry b).1.retries := by
  have nothing : ∀ w ∈ ([] : List PendingWrite), w.op.uuid ∈ ([] : List Uuid) := by simp
  rw [retry_eq]
  exact row_retryList nothing { q with retries := [] } b q.retries

theorem retryAttempts_ne_nil (h : q.retries ≠ []) : q.retryAttempts b ≠ [] := by
  rw [retryAttempts]
  cases pending : q.retries with
  | nil => exact absurd pending h
  | cons w ws =>
    rw [roundAttempts, if_neg (List.not_mem_nil)]
    exact List.cons_ne_nil _ _

theorem row_handleWrite (op : WriteOp) :
    Row (q.retries ++ [⟨op, 0⟩]) (if q.isBlocked op.uuid then [] else [.make b ⟨op, 0⟩])
      (q.handleWrite b op).1.retries := by
  by_cases blocked : q.isBlocked op.uuid = true
  · rw [handleWrite_of_blocked blocked, if_pos blocked]
    exact .nil
  · have first : ∀ w ∈ q.retries, w.op.uuid ≠ op.uuid :=
      fun w member => isBlocked_eq_false blocked w.op (List.mem_map_of_mem member)
    obtain ⟨q', tried, counted, -⟩ := q.attempt_eq b ⟨op, 0⟩
    have trial : Row (q.retries ++ [⟨op, 0⟩]) [.make b ⟨op, 0⟩]
        (q.retries ++ ((Attempt.make b ⟨op, 0⟩).left ++ [])) :=
      .cons (a := .make b ⟨op, 0⟩) first .nil
    rw [handleWrite, if_neg blocked, if_neg blocked, tried]
    rw [left] at trial
    by_cases closes : (Attempt.make b ⟨op, 0⟩).closes = true
    · rw [if_pos closes] at trial ⊢
      change Row _ _ q'.retries
      simpa [counted.retries] using trial
    · rw [if_neg closes] at trial ⊢
      change Row _ _ (q'.retries ++ [_])
      rw [counted.retries]
      exact trial

variable {q}

theorem inTurn_work {as : List Attempt} (h : InTurn as q.retries) :
    InTurn (as ++ q.workAttempts b) (q.work b).1.retries := by
  cases first : q.channel with
  | nil =>
    rw [work_of_nil first, workAttempts, first]
    simpa using h
  | cons m rest =>
    rw [work_of_cons first, workAttempts, first]
    cases m with
    | barrier t =>
      change InTurn (as ++ []) (q.taken rest).retries
      rwa [List.append_nil, retries_taken]
    | write op =>
      have blocked : (q.taken rest).isBlocked op.uuid = q.isBlocked op.uuid := by
        rw [isBlocked, isBlocked, retries_taken]
      have row := (q.taken rest).row_handleWrite b op
      rw [retries_taken, blocked] at row
      exact (h.join op).row row

theorem budget_retry_lt {as : List Attempt} (h : InTurn as q.retries) (pending : q.retries ≠ []) :
    budget (q.retry b).1.retries < budget q.retries := by
  have spent := budget_row (q.row_retry b) h.few
  have some_attempt := List.length_pos_iff.mpr (q.retryAttempts_ne_nil b pending)
  omega

end WriteQueue

namespace Ledger

structure Lined (l : Ledger) : Prop where
  turn : InTurn l.attempts l.queue.retries
  heads : l.queue.HeadsTried l.attempts

theorem Lined.start (capacity : Nat) (attached : Bool) : (Ledger.start capacity attached).Lined :=
  ⟨.nil, fun _ member => absurd member List.not_mem_nil⟩

variable {l : Ledger}

theorem Lined.idle (h : l.Lined) {q : WriteQueue} (same : q.retries = l.queue.retries)
    (calls : List (WriteOp × Bool)) : Lined { l with queue := q, calls } := by
  refine ⟨?_, ?_⟩
  · change InTurn l.attempts q.retries
    rw [same]
    exact h.turn
  · change ∀ w ∈ q.retries, _
    rw [same]
    exact h.heads

theorem Lined.after (h : l.Lined) (step : QueueStep) : (l.after step).Lined := by
  cases step with
  | enqueue op => exact h.idle (l.queue.retries_enqueue op) _
  | flush t =>
    rw [Ledger.after]
    split
    · exact h.idle (l.queue.sameWrites_beginFlush t).retries _
    · exact h
  | sendBarrier => exact h.idle l.queue.sameWrites_sendBarrier.retries _
  | work b => exact ⟨WriteQueue.inTurn_work b h.turn, h.heads.work b⟩
  | retry b => exact ⟨h.turn.row (l.queue.row_retry b), l.queue.headsTried_retry l.attempts b⟩

theorem Lined.run (h : l.Lined) (steps : List QueueStep) : (l.run steps).Lined := by
  induction steps generalizing l with
  | nil => exact h
  | cons step steps ih => exact ih (h.after step)

theorem Lined.counts (h : l.Lined) {u : Uuid} {w : PendingWrite} {ws : List PendingWrite}
    (line : l.queue.retries.filter (·.op.uuid = u) = w :: ws) :
    1 ≤ w.attempts ∧ w.attempts < maxAttempts ∧ ∀ v ∈ ws, v.attempts = 0 := by
  have member (v : PendingWrite) (inside : v ∈ w :: ws) : v ∈ l.queue.retries ∧ v.op.uuid = u := by
    rw [← line] at inside
    simpa using inside
  obtain ⟨listed, rfl⟩ := member w List.mem_cons_self
  have head : headCount w.op.uuid l.queue.retries = w.attempts := by
    rw [headCount, ← List.head?_filter, line]
    rfl
  have tried := tries_pos (h.heads w listed)
  have behind := h.turn.behind.filter (·.op.uuid = w.op.uuid)
  rw [line, List.pairwise_cons] at behind
  refine ⟨?_, h.turn.few w listed, fun v later => ?_⟩
  · rw [← head, h.turn.counted]
    exact tried
  · exact behind.1 v later (member v (List.mem_cons_of_mem _ later)).2.symm

/-- In these steps no write that the worker takes from the channel joins the retry list. -/
def Undisturbed (l : Ledger) (steps : List QueueStep) : Prop :=
  ∀ before b after, steps = before ++ .work b :: after →
    ((l.run before).after (.work b)).queue.retries = (l.run before).queue.retries

theorem Undisturbed.tail {step : QueueStep} {steps : List QueueStep}
    (h : l.Undisturbed (step :: steps)) : (l.after step).Undisturbed steps :=
  fun before b after split => h (step :: before) b after (congrArg (step :: ·) split)

end Ledger

def QueueStep.isRound : QueueStep → Bool
  | retry _ => true
  | _ => false

namespace Ledger

variable {l : Ledger}

theorem Undisturbed.retries_after {step : QueueStep} {steps : List QueueStep}
    (alone : l.Undisturbed (step :: steps)) (pause : step.isRound = false) :
    (l.after step).queue.retries = l.queue.retries := by
  cases step with
  | enqueue op => exact l.queue.retries_enqueue op
  | flush t =>
    rw [after]
    split
    · exact (l.queue.sameWrites_beginFlush t).retries
    · rfl
  | sendBarrier => exact l.queue.sameWrites_sendBarrier.retries
  | work b => exact alone [] b steps rfl
  | retry b => cases pause

theorem Lined.retries_run (h : l.Lined) {steps : List QueueStep} (alone : l.Undisturbed steps)
    (enough : budget l.queue.retries ≤ steps.countP (·.isRound)) :
    (l.run steps).queue.retries = [] := by
  -- Every round spends something, so as many rounds as there is left to spend empty the list.
  induction steps generalizing l with
  | nil => exact eq_nil_of_budget h.turn.few (Nat.le_zero.mp enough)
  | cons step steps ih =>
    refine ih (h.after step) alone.tail ?_
    rw [List.countP_cons] at enough
    cases round : step.isRound with
    | false =>
      rw [alone.retries_after round]
      simpa [round] using enough
    | true =>
      cases step with
      | retry b =>
        rw [if_pos round] at enough
        by_cases pending : l.queue.retries = []
        · have none := budget_row (l.queue.row_retry b) h.turn.few
          rw [pending] at none
          exact Nat.le_trans (Nat.le_of_add_right_le none) (Nat.zero_le _)
        · have spent := WriteQueue.budget_retry_lt b h.turn pending
          change budget (l.queue.retry b).1.retries ≤ _
          omega
      | _ => cases round

/-- In every run the first write of each session in the retry list was tried one to four times and
the others never, no write is tried more than five times, and a round at a list that is not empty
takes something from the attempts that are left. So a list of writes that nothing joins is empty
after at most five rounds for each, whatever the store answers. -/
theorem retries_make_progress (capacity : Nat) (attached : Bool) (steps : List QueueStep) :
    let l := (start capacity attached).run steps
    (∀ u w ws, l.queue.retries.filter (·.op.uuid = u) = w :: ws →
      1 ≤ w.attempts ∧ w.attempts ≤ 4 ∧ ∀ v ∈ ws, v.attempts = 0) ∧
    (∀ u n, tries u n l.attempts ≤ 5) ∧
    (∀ b, l.queue.retries ≠ [] → budget (l.queue.retry b).1.retries < budget l.queue.retries) ∧
    ∀ later, l.Undisturbed later →
      5 * l.queue.retries.length ≤ later.countP (·.isRound) → (l.run later).queue.retries = [] := by
  intro l
  have lined : l.Lined := (Lined.start capacity attached).run steps
  refine ⟨fun u w ws line => ?_, lined.turn.most,
    fun b pending => WriteQueue.budget_retry_lt b lined.turn pending, fun later alone enough => ?_⟩
  · obtain ⟨tried, few, fresh⟩ := lined.counts line
    exact ⟨tried, Nat.le_of_lt_succ few, fresh⟩
  · exact lined.retries_run alone (Nat.le_trans (budget_le l.queue.retries) enough)

theorem retries_make_progress_without_recovery :
    let r : SessionRecord := ⟨.zero, "", .epoch, .epoch, .epoch, [], false⟩
    let failing : Backend := { faults := fun _ _ => some (.error (.unavailable "")) }
    let steps : List QueueStep :=
      [.enqueue (.put r), .enqueue (.delete .zero), .work failing, .work failing]
    let later : List QueueStep := List.replicate 10 (.retry failing)
    ((start 4 true).run steps).queue.retries = [⟨.put r, 1⟩, ⟨.delete .zero, 0⟩] ∧
      (((start 4 true).run steps).run later).queue.retries = [] := by
  intro r failing steps later
  have pending : ((start 4 true).run steps).queue.retries =
      [⟨.put r, 1⟩, ⟨.delete .zero, 0⟩] := rfl
  obtain ⟨-, -, -, emptied⟩ := retries_make_progress 4 true steps
  refine ⟨pending, emptied later (fun before b after split => ?_) ?_⟩
  · have member : .work b ∈ later := split ▸ List.mem_append_right _ List.mem_cons_self
    cases List.eq_of_mem_replicate member
  · rw [pending, List.countP_replicate]
    decide

end Ledger

end SessionGateway
