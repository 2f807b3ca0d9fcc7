import SessionGateway.Proofs.Session.Quiet

/-! No write brings a session back in the store. In a run of one manager, a write that ends a
session was queued by a revocation, and after that only such writes are queued for the session. So
from the attempt on at which the first of them takes effect, the store has no usable record of the
session, and neither a write that failed before nor a read of the store changes that. -/

namespace SessionGateway

open WriteOp Attempt

structure LogEntry where
  attempt : Attempt
  left : SessionStore

/-- The log of attempts in a row, from the backend that the first of them meets. -/
def Attempt.log (b : Backend) : List Attempt → List LogEntry
  | [] => []
  | a :: as => ⟨a, (a.op.apply b).2.store⟩ :: log (a.op.apply b).2 as

/-- Behind a write that ends the session there are only such. -/
def WriteOp.Ordered (u : Uuid) (ops : List WriteOp) : Prop :=
  (ofSession u ops).Pairwise fun p q => p.Ends u → q.Ends u

theorem WriteOp.Ordered.sublist {u : Uuid} {ops ops' : List WriteOp} (h : Ordered u ops)
    (sub : ops'.Sublist ops) : Ordered u ops' :=
  List.Pairwise.sublist (sub.filter _) h

section attempts

variable {P : SessionRecord → Prop} {ops ops' : List WriteOp} {b b' : Backend} {u : Uuid}
  {as : List Attempt}

theorem Trials.log_ended (h : Trials ops b as ops' b') (flagged : ∀ r, P r → P r.flagged)
    (hs : b.store.Holds P) (carry : ∀ op ∈ ops, op.Carries P) (ends : AllEnd u ops)
    (ended : b.store.Ended u) : ∀ e ∈ Attempt.log b as, e.left.Ended u := by
  induction h with
  | nil => simp [Attempt.log]
  | cons trial rest ih =>
    have one := Trials.cons trial .nil
    have first := one.ended flagged hs carry ends ended
    have others := ih (one.holds flagged hs carry)
      (fun op member => carry op (trial.sublist.subset member))
      (fun op member => ends op (trial.sublist.subset member)) first
    rw [trial.backend_eq] at first others
    exact List.forall_mem_cons.mpr ⟨first, others⟩

theorem Trials.ended_from (h : Trials ops b as ops' b') (flagged : ∀ r, P r → P r.flagged)
    (hs : b.store.Holds P) (carry : ∀ op ∈ ops, op.Carries P) (ordered : Ordered u ops)
    {before after : List LogEntry} {e : LogEntry} (made : Attempt.log b as = before ++ e :: after)
    (done : e.attempt.succeeded = true) (ends : e.attempt.op.Ends u) :
    (∀ x ∈ e :: after, x.left.Ended u) ∧ b'.store.Ended u ∧ AllEnd u ops' := by
  induction h generalizing before with
  | nil => simp [Attempt.log] at made
  | @cons ops mid ops' b c b' a as trial rest ih =>
    have holds := (Trials.cons trial .nil).holds flagged hs carry
    have carries : ∀ op ∈ mid, op.Carries P := fun op member =>
      carry op (trial.sublist.subset member)
    cases before with
    | cons first before =>
      have made' := (List.cons.inj made).2
      rw [← trial.backend_eq] at made'
      exact ih holds carries (ordered.sublist trial.sublist) made'
    | nil =>
      -- The session is over with this very attempt.
      obtain ⟨rfl, rfl⟩ := List.cons.inj made
      have behind : ∀ later, ofSession u ops = a.op :: later → ∀ op ∈ later, op.Ends u := by
        intro later head op member
        rw [Ordered, head] at ordered
        exact (List.pairwise_cons.mp ordered).1 op member ends
      obtain ⟨ended, others⟩ := trial.ended_of_succeeded hs carry done ends behind
      have left := rest.log_ended flagged holds carries others ended
      refine ⟨?_, rest.ended flagged holds carries others ended, fun op member =>
        others op (rest.sublist.subset member)⟩
      rw [trial.backend_eq] at ended left
      exact List.forall_mem_cons.mpr ⟨ended, left⟩

end attempts

namespace Stage

/-- Only revocations end sessions, and no usable record is queued after one. -/
structure Ending (s : Stage) : Prop where
  revoked : ∀ u, ∀ op ∈ s.queue.pending, op.Ends u → (s.history.of u).Revoked
  ordered : ∀ u, Ordered u s.queue.pending

variable {o : Origin} {s s' : Stage} {u : Uuid}

theorem Ending.act (h : s.Ending) {c : SessionCache} {op : WriteOp} {d : Deed}
    (mine : op.uuid = u) (ends : (s.history.of u).Revoked → op.Ends u)
    (revoked : op.Ends u → Past.Revoked ((s.clock, d) :: s.history.of u)) :
    (s.act c op u d).Ending := by
  refine ⟨fun v op' member ended => ?_, fun v => ?_⟩
  · rcases mem_pending_act member with old | rfl
    · exact History.revoked_append [_] (h.revoked v op' old ended)
    · obtain rfl : u = v := mine.symm.trans ended.uuid
      rw [Stage.act, note, History.of_cons_self]
      exact revoked ended
  · change Ordered v (s.queue.enqueue op).2.pending
    rw [WriteQueue.pending_enqueue]
    split
    · rw [Ordered, ofSession_append, List.pairwise_append]
      refine ⟨h.ordered v, List.Pairwise.sublist List.filter_sublist (List.pairwise_singleton _ _),
        fun p before q new ended => ?_⟩
      obtain ⟨member, same⟩ := mem_ofSession.mp new
      obtain rfl := List.mem_singleton.mp member
      obtain rfl : u = v := mine.symm.trans same
      exact ends (h.revoked u p (mem_ofSession.mp before).1 ended)
    · exact h.ordered v

theorem Ending.move (h : s.Ending) (coherent : Coherent o s) (m : Move o s s') : s'.Ending := by
  cases m with
  | tick _ => exact ⟨h.revoked, h.ordered⟩
  | read _ _ => exact ⟨h.revoked, h.ordered⟩
  | worker worked _ =>
    exact ⟨fun u op member => h.revoked u op (worked.pending.subset member),
      fun u => (h.ordered u).sublist worked.pending⟩
  | issue fresh _ started _ =>
    obtain ⟨e, -, rfl⟩ := Session.start_eq_ok started
    refine h.act rfl (fun revoked => ?_) fun ⟨_, flagged⟩ => ?_
    · simp [fresh] at revoked
    · cases flagged
  | load _ _ _ _ _ _ _ _ => exact ⟨h.revoked, h.ordered⟩
  | @access u x x' cached unflagged touched =>
    obtain ⟨l, -, -, mirrors⟩ := (coherent.entries u).live x cached
    have key := coherent.key cached
    obtain ⟨e, -, rfl⟩ := Session.touch_eq_ok touched
    refine h.act key (fun revoked => ?_) fun ⟨_, flagged⟩ => ?_
    · exact absurd revoked (mirrors.unrevoked_iff.mp unflagged)
    · simp [Session.toRecord, unflagged] at flagged
  | @revoke u free =>
    have ends := SessionManager.invalidation_ends (m := s.manager) (u := u) fun x => coherent.key
    exact h.act ends.uuid (fun _ => ends) fun _ => Past.revoked_cons_revoked
  | revokeAgain _ =>
    exact ⟨fun u op member ends => History.revoked_append [_] (h.revoked u op member ends),
      h.ordered⟩
  | sweep _ => exact ⟨h.revoked, h.ordered⟩

theorem Coherent.sane (h : Coherent o s) : s.Sane := by
  refine ⟨⟨fun u x cached => ?_, fun op member => ?_⟩, h.stored.mono fun _ _ => trivial⟩
  · obtain ⟨l, -, -, mirrors⟩ := (h.entries u).live x cached
    exact ⟨h.key cached, mirrors.fits⟩
  · exact (h.pending op member).mono fun _ _ => trivial

theorem Coherent.quiet (h : Coherent o s) (revoked : (s.history.of u).Revoked)
    (ended : s.backend.store.Ended u) (pending : AllEnd u s.queue.pending) : s.Quiet u := by
  refine ⟨⟨fun x cached => ?_, pending⟩, ended, fun unused => ?_⟩
  · obtain ⟨l, -, -, mirrors⟩ := (h.entries u).live x cached
    exact mirrors.flagged.mpr revoked
  · simp [unused] at revoked

end Stage

theorem Stage.Quiet.log_ended {s : Stage} {u : Uuid} (h : s.Quiet u) (sane : s.Sane) (c : Call) :
    ∀ e ∈ Attempt.log s.backend (c.attempts s.manager s.backend), e.left.Ended u := by
  by_cases none : c.attempts s.manager s.backend = []
  · simp [none, Attempt.log]
  · exact (s.trials_after c none).log_ended (fun _ _ => trivial) sane.stored sane.manager.pending
      h.manager.pending h.stored

/-- The stages of a run, each with the log of all attempts so far. -/
inductive LoggedRun (o : Origin) : Stage → List LogEntry → Prop
  | start {m : SessionManager} (started : SessionManager.start o.settings = .ok m) :
    LoggedRun o ⟨m, o.backend, o.clock, []⟩ []
  | call {s : Stage} {log : List LogEntry} (run : LoggedRun o s log) (c : Call)
    (later : ∀ t ∈ c.time?, s.clock.Advances t) (legal : c.Legal o s.history) :
    LoggedRun o (s.after c) (log ++ Attempt.log s.backend (c.attempts s.manager s.backend))

theorem LoggedRun.run {o : Origin} {s : Stage} {log : List LogEntry} (h : LoggedRun o s log) :
    Run o s := by
  induction h with
  | start started => exact .start started
  | call _ c later legal ih => exact .call ih c later legal

theorem mem_of_mem_log {b : Backend} {as : List Attempt} {e : LogEntry}
    (member : e ∈ Attempt.log b as) : e.attempt ∈ as := by
  induction as generalizing b with
  | nil => simp [Attempt.log] at member
  | cons a as ih =>
    rcases List.mem_cons.mp member with rfl | later
    · exact List.mem_cons_self
    · exact List.mem_cons_of_mem _ (ih later)

theorem Run.ending {o : Origin} (sound : o.Sound) {s : Stage} (run : Run o s) :
    s.Coherent o ∧ s.Ending := by
  refine run.invariant sound (fun m started => ?_) fun s s' coherent ending move =>
    ending.move coherent move
  obtain rfl := SessionManager.start_eq_ok started
  have idle : (SessionManager.ofSettings o.settings).writes.queue.pending = [] := rfl
  refine ⟨fun u op member => ?_, fun u => ?_⟩
  · simp [idle] at member
  · simp [Ordered, idle]

theorem Run.quiet_after {o : Origin} (sound : o.Sound) {s : Stage} (run : Run o s) {c : Call}
    (later : ∀ t ∈ c.time?, s.clock.Advances t) (legal : c.Legal o s.history) {u : Uuid}
    {before after : List LogEntry} {e : LogEntry}
    (made : Attempt.log s.backend (c.attempts s.manager s.backend) = before ++ e :: after)
    (done : e.attempt.succeeded = true) (ends : e.attempt.op.Ends u) :
    (∀ x ∈ e :: after, x.left.Ended u) ∧ (s.after c).Quiet u := by
  obtain ⟨coherent, ending⟩ := run.ending sound
  have sane := coherent.sane
  have nonempty : c.attempts s.manager s.backend ≠ [] := by
    intro none
    simp [none, Attempt.log] at made
  have trials := s.trials_after c nonempty
  obtain ⟨seen, ended, pending⟩ := trials.ended_from (fun _ _ => trivial) sane.stored
    sane.manager.pending (ending.ordered u) made done ends
  have member : e ∈ Attempt.log s.backend (c.attempts s.manager s.backend) := by simp [made]
  have revoked := ending.revoked u _ (trials.mem (mem_of_mem_log member)) ends
  have coherent' := (run.call c later legal).coherent sound
  exact ⟨seen, coherent'.quiet (History.revoked_append _ revoked) ended pending⟩

theorem LoggedRun.quiet {o : Origin} (sound : o.Sound) {s : Stage} {log : List LogEntry}
    (run : LoggedRun o s log) {u : Uuid} {before after : List LogEntry} {e : LogEntry}
    (made : log = before ++ e :: after) (done : e.attempt.succeeded = true)
    (ends : e.attempt.op.Ends u) : (∀ x ∈ e :: after, x.left.Ended u) ∧ s.Quiet u := by
  induction run generalizing after with
  | start _ => simp at made
  | @call s log run c later legal ih =>
    rcases append_eq_append_cons made with ⟨mid, old, rfl⟩ | ⟨mid, rfl, new⟩
    · -- It took effect before this call, and the call keeps the session over.
      obtain ⟨seen, quiet⟩ := ih old
      have sane := (run.run.coherent sound).sane
      refine ⟨?_, quiet.after sane legal⟩
      rw [← List.cons_append, List.forall_mem_append]
      exact ⟨seen, quiet.log_ended sane c⟩
    · exact run.run.quiet_after sound later legal new done ends

/-- From the moment on at which a write that deletes or flags a session took effect, the store never
has a usable record of it again: not after any later attempt, and not now. -/
theorem LoggedRun.not_revived {o : Origin} (sound : o.Sound) {s : Stage} {log : List LogEntry}
    (run : LoggedRun o s log) {u : Uuid} {before after : List LogEntry} {e : LogEntry}
    (made : log = before ++ e :: after) (done : e.attempt.succeeded = true)
    (ends : e.attempt.op.Ends u) :
    (∀ x ∈ e :: after, x.left.Ended u) ∧ s.backend.store.Ended u := by
  obtain ⟨seen, quiet⟩ := run.quiet sound made done ends
  exact ⟨seen, quiet.stored⟩

theorem LoggedRun.not_revived_after_retry :
    let o : Origin :=
      { (default : Origin) with
        settings := { retention := .softInvalidate }
        backend := { faults := fun call n =>
          if call = .put ∧ n = 0 then some (.error (.unavailable "")) else none } }
    let ctx : SessionContext :=
      ⟨⟨fun _ => .ok "", fun _ => .ok ⟨.zero, "", 0, 0⟩, .ofSeconds 1⟩, fun _ => none, .epoch⟩
    let record : SessionRecord :=
      ⟨.zero, "", .epoch, .epoch, ⟨21600, 0, by decide, by decide⟩, [], false⟩
    let waiting := (((Stage.after ⟨.ofSettings o.settings, o.backend, o.clock, []⟩
      (.create ctx .zero default [])).after (.invalidate .epoch .zero)).after .work).after .work
    let s := waiting.after .retry
    ∃ log e, LoggedRun o s (log ++ [e]) ∧ e.attempt.succeeded = true ∧
      e.attempt.op = .put record.flagged ∧ s.backend.store.Ended .zero := by
  intro o ctx record waiting s
  have now : ∀ t ∈ some ctx.now, Instant.epoch.Advances t := by
    rintro t ⟨⟩
    exact .refl _
  have idle {c : Instant} : ∀ t ∈ (none : Option Instant), c.Advances t := by
    rintro t ⟨⟩
  have start : LoggedRun o ⟨.ofSettings o.settings, o.backend, o.clock, []⟩ [] := .start rfl
  have created := start.call (.create ctx .zero default []) now ⟨rfl, rfl, by decide, by decide⟩
  have revoked := created.call (.invalidate .epoch .zero) now trivial
  have failed : LoggedRun o waiting _ :=
    (revoked.call .work idle trivial).call .work idle trivial
  have run := failed.call .retry idle trivial
  have round : (Call.attempts waiting.manager waiting.backend .retry).map
      (fun a => (a.op, a.succeeded)) = [(.put record, true), (.put record.flagged, true)] := by
    decide +kernel
  obtain ⟨first, rest, tried, -, round⟩ := List.map_eq_cons_iff.mp round
  obtain ⟨last, none, rfl, answer, round⟩ := List.map_eq_cons_iff.mp round
  obtain rfl := List.map_eq_nil_iff.mp round
  obtain ⟨op, done⟩ := Prod.mk.inj answer
  rw [tried, Attempt.log, Attempt.log, Attempt.log, List.append_cons] at run
  have sound : o.Sound := SessionStore.holds_empty
  have ends : last.op.Ends .zero := op ▸ ⟨rfl, rfl⟩
  obtain ⟨-, ended⟩ := run.not_revived sound rfl done ends
  exact ⟨_, _, run, done, op, ended⟩

/-- The clock goes into a leap second. The deletion takes effect, and then the record that was queued
behind it is written. -/
theorem LoggedRun.revived_after_leap_second :
    let s := LeapSecond.swept.after (.resolve (LeapSecond.context LeapSecond.late) "")
    let deleted := s.after .work
    LeapSecond.opening ≤ LeapSecond.inside ∧ LeapSecond.inside ≤ LeapSecond.late ∧
      (Call.attempts s.manager s.backend .work).map (fun a => (a.op, a.succeeded)) =
        [(.delete .zero, true)] ∧
      (deleted.backend.store.get .zero).toOption = some none ∧
      ((deleted.after .work).backend.store.get .zero).toOption.join.map (·.invalidated) =
        some false := by
  decide +kernel

end SessionGateway
