import SessionGateway.Proofs.Persistence.Round

/-! What the steps of the worker keep. The writes that are left were there before, in the same
order, and the store went through effects of writes that were there. If none was given up, what a
read of a session will answer once all its writes are done is what it would have answered without
the step. -/

namespace SessionGateway

namespace WriteOp

/-- What a row of writes makes of the answer to a read of one session. -/
def replay (u : Uuid) (ops : List WriteOp) (x : SessionStore.Answer) : SessionStore.Answer :=
  ops.foldl (fun x op => if op.uuid = u then op.onRecord x else x) x

@[simp] theorem replay_nil (u : Uuid) (x : SessionStore.Answer) : replay u [] x = x := rfl

theorem replay_cons (u : Uuid) (op : WriteOp) (ops : List WriteOp) (x : SessionStore.Answer) :
    replay u (op :: ops) x = replay u ops (if op.uuid = u then op.onRecord x else x) := rfl

theorem replay_append (u : Uuid) (ops ops' : List WriteOp) (x : SessionStore.Answer) :
    replay u (ops ++ ops') x = replay u ops' (replay u ops x) :=
  List.foldl_append

theorem replay_of_forall_ne {u : Uuid} {ops : List WriteOp} (h : ∀ op ∈ ops, op.uuid ≠ u)
    (x : SessionStore.Answer) : replay u ops x = x := by
  induction ops with
  | nil => rfl
  | cons op ops ih =>
    rw [replay_cons, if_neg (h op List.mem_cons_self)]
    exact ih fun op' member => h op' (List.mem_cons_of_mem op member)

end WriteOp

open WriteOp Attempt

section attempts

variable {P : SessionRecord → Prop} {ops ops' : List WriteOp} {b b' : Backend} {a : Attempt}
  {as : List Attempt}

theorem Trial.replay_eq (h : Trial ops b a ops' b') (honest : b.Honest) (hs : b.store.Holds P)
    (carry : ∀ op ∈ ops, op.Carries P) (kept : a.loses = false) (u : Uuid) :
    replay u ops' (b'.store.get u) = replay u ops (b.store.get u) := by
  by_cases done : a.succeeded = true
  · have changed := get_effect hs (carry _ h.mem) u
    rw [← h.store_of_succeeded done] at changed
    obtain ⟨rfl, first, -⟩ := h
    rw [if_pos (closes_of_succeeded done), replay_append, replay_append, replay_cons, changed]
    by_cases same : a.op.uuid = u
    · rw [same] at first
      simp only [replay_of_forall_ne first]
    · simp only [if_neg same]
  · have again : ¬ a.closes = true := fun closes => by simp [loses, closes, done] at kept
    have unchanged := h.store_of_kept again honest
    obtain ⟨-, -, -⟩ := h
    rw [if_neg again, unchanged]

theorem Trial.succeeded (h : Trial ops b a ops' b') (healthy : b.Healthy)
    (hs : b.store.Readable) : a.succeeded = true := by
  obtain ⟨-, -, made⟩ := h
  have fine := apply_of_healthy healthy hs a.op
  rw [made] at fine
  dsimp only at fine
  rw [Attempt.succeeded, fine]

theorem Trials.replay_eq (h : Trials ops b as ops' b') (flagged : ∀ r, P r → P r.flagged)
    (honest : b.Honest) (hs : b.store.Holds P) (carry : ∀ op ∈ ops, op.Carries P)
    (kept : lost as = []) (u : Uuid) :
    replay u ops' (b'.store.get u) = replay u ops (b.store.get u) := by
  induction h with
  | nil => rfl
  | @cons ops ops' ops'' b b' b'' a as trial rest ih =>
    rw [lost_eq_nil] at kept
    have holds : b'.store.Holds P := by
      rcases trial.store with same | changed
      · exact same ▸ hs
      · exact changed ▸ holds_effect hs (carry _ trial.mem) flagged
    rw [ih (trial.later.honest honest) holds
      (fun op member => carry op (trial.sublist.subset member))
      (lost_eq_nil.mpr fun c member => kept c (List.mem_cons_of_mem a member))]
    exact trial.replay_eq honest hs carry (kept a List.mem_cons_self) u

end attempts

namespace WriteQueue

/-- What a read of a session will answer when its pending writes are done. -/
def settled (q : WriteQueue) (s : SessionStore) (u : Uuid) : SessionStore.Answer :=
  WriteOp.replay u q.pending (s.get u)

structure Worked (q : WriteQueue) (b : Backend) (q' : WriteQueue) (b' : Backend) : Prop where
  later : b.Later b'
  dropped : q.dropped ≤ q'.dropped
  pending : q'.pending.Sublist q.pending
  store : ∀ I : SessionStore → Prop, (∀ op ∈ q.pending, ∀ s, I s → I (op.effect s)) →
    I b.store → I b'.store

/-- If no write was given up, a read of a session answers the same once all writes are done. -/
def Settles (q : WriteQueue) (b : Backend) (q' : WriteQueue) (b' : Backend) : Prop :=
  ∀ P : SessionRecord → Prop, (∀ r, P r → P r.flagged) → b.Honest → b.store.Holds P →
    (∀ op ∈ q.pending, op.Carries P) → q'.dropped = q.dropped →
    ∀ u, q'.settled b'.store u = q.settled b.store u

section steps

variable {q q' : WriteQueue} {b b' : Backend} {as : List Attempt}

theorem worked_of_trials (trials : Trials q.pending b as q'.pending b') (tally : q.Tally as q') :
    Worked q b q' b' :=
  ⟨trials.later, by rw [tally.dropped]; omega, trials.sublist,
    fun I keeps holds => trials.store keeps holds⟩

theorem settles_of_trials (trials : Trials q.pending b as q'.pending b') (tally : q.Tally as q') :
    Settles q b q' b' := by
  intro P flagged honest hs carry kept u
  have none : lost as = [] := by
    have dropped := tally.dropped
    exact List.eq_nil_of_length_eq_zero (by omega)
  exact trials.replay_eq flagged honest hs carry none u

end steps

theorem worked_work (q : WriteQueue) (b : Backend) : Worked q b (q.work b).1 (q.work b).2 :=
  worked_of_trials (q.trials_work b).1 (q.trials_work b).2

theorem settles_work (q : WriteQueue) (b : Backend) : Settles q b (q.work b).1 (q.work b).2 :=
  settles_of_trials (q.trials_work b).1 (q.trials_work b).2

theorem worked_retry (q : WriteQueue) (b : Backend) : Worked q b (q.retry b).1 (q.retry b).2 :=
  worked_of_trials (q.trials_retry b).1 (q.trials_retry b).2

theorem settles_retry (q : WriteQueue) (b : Backend) : Settles q b (q.retry b).1 (q.retry b).2 :=
  settles_of_trials (q.trials_retry b).1 (q.trials_retry b).2

end WriteQueue

end SessionGateway
