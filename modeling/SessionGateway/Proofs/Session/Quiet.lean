import SessionGateway.Proofs.Session.Invalidation

/-! Sessions that are over for good. When no usable record of a session is stored, cached or waiting
to be written, no move of a manager on that store brings one back. This needs no more than that
records and sessions lie under their own identifiers; the time does not matter, nor does it matter
who did what to the store before. -/

namespace SessionGateway

/-- No usable record of the session is stored. -/
def SessionStore.Ended (s : SessionStore) (u : Uuid) : Prop :=
  ∀ r, s.get u = .ok (some r) → r.invalidated = true

namespace WriteOp

/-- Each of these writes leaves no usable record of the session, if it is one of its own. -/
def AllEnd (u : Uuid) (ops : List WriteOp) : Prop :=
  ∀ op ∈ ops, op.uuid = u → op.Ends u

section ends

variable {P : SessionRecord → Prop} {s : SessionStore} {op : WriteOp} {u : Uuid}

theorem Ends.flagged (h : op.Ends u) {x : SessionStore.Answer} {r : SessionRecord}
    (left : op.onRecord x = .ok (some r)) : r.invalidated = true := by
  cases op with
  | put r' =>
    cases left
    exact h.2
  | delete v => cases left
  | flag v =>
    match x with
    | .error e => cases left
    | .ok none => cases left
    | .ok (some r') =>
      cases left
      rfl

theorem Ends.ended (h : op.Ends u) (hs : s.Holds P) (carry : op.Carries P) :
    (op.effect s).Ended u := by
  intro r found
  rw [get_effect hs carry, if_pos h.uuid] at found
  exact h.flagged found

end ends

end WriteOp

theorem SessionStore.Ended.effect {P : SessionRecord → Prop} {s : SessionStore} {u : Uuid}
    (h : s.Ended u) {op : WriteOp} (hs : s.Holds P) (carry : op.Carries P)
    (ends : op.uuid = u → op.Ends u) : (op.effect s).Ended u := by
  by_cases mine : op.uuid = u
  · exact (ends mine).ended hs carry
  · intro r found
    rw [WriteOp.get_effect hs carry, if_neg mine] at found
    exact h r found

open WriteOp Attempt

section attempts

variable {P : SessionRecord → Prop} {ops ops' : List WriteOp} {b b' : Backend} {u : Uuid}
  {a : Attempt} {as before after : List Attempt}

theorem allEnd_iff : AllEnd u ops ↔ ∀ op ∈ ofSession u ops, op.Ends u := by
  simp only [AllEnd, mem_ofSession, and_imp]

theorem Trial.ended_of_succeeded (h : Trial ops b a ops' b') (hs : b.store.Holds P)
    (carry : ∀ op ∈ ops, op.Carries P) (done : a.succeeded = true) (ends : a.op.Ends u)
    (behind : ∀ later, ofSession u ops = a.op :: later → ∀ op ∈ later, op.Ends u) :
    b'.store.Ended u ∧ AllEnd u ops' := by
  refine ⟨?_, ?_⟩
  · rw [h.store_of_succeeded done]
    exact ends.ended hs (carry _ h.mem)
  · rw [allEnd_iff]
    refine behind _ ?_
    have out := h.ofSession_eq u
    rwa [closed_singleton, if_pos (closes_of_succeeded done), ofSession_cons,
      if_pos ends.uuid] at out

theorem Trials.holds (h : Trials ops b as ops' b') (flagged : ∀ r, P r → P r.flagged)
    (hs : b.store.Holds P) (carry : ∀ op ∈ ops, op.Carries P) : b'.store.Holds P :=
  h.store (fun op member _ hs => holds_effect hs (carry op member) flagged) hs

theorem Trials.ended (h : Trials ops b as ops' b') (flagged : ∀ r, P r → P r.flagged)
    (hs : b.store.Holds P) (carry : ∀ op ∈ ops, op.Carries P) (ends : AllEnd u ops)
    (ended : b.store.Ended u) : b'.store.Ended u := by
  refine (h.store (I := fun s => s.Holds P ∧ s.Ended u) (fun op member s ⟨hs, ended⟩ => ?_)
    ⟨hs, ended⟩).2
  have carries := carry op member
  exact ⟨holds_effect hs carries flagged, ended.effect hs carries (ends op member)⟩

theorem Trials.ended_of_succeeded (h : Trials ops b (before ++ a :: after) ops' b')
    (flagged : ∀ r, P r → P r.flagged) (hs : b.store.Holds P) (carry : ∀ op ∈ ops, op.Carries P)
    (done : a.succeeded = true) (ends : a.op.Ends u)
    (last : ofSession u ops = ofSession u (closed before) ++ [a.op]) :
    b'.store.Ended u ∧ AllEnd u ops' := by
  obtain ⟨mid, c, first, second⟩ := h.split
  have rest := first.ofSession_eq u
  rw [last] at rest
  have alone : ofSession u mid = [a.op] := (List.append_cancel_left rest).symm
  have holds := first.holds flagged hs carry
  have carries : ∀ op ∈ mid, op.Carries P := fun op member => carry op (first.sublist.subset member)
  cases second with
  | cons trial after =>
    obtain ⟨ended, others⟩ := trial.ended_of_succeeded holds carries done ends fun later head => by
      obtain rfl : later = [] := by simpa [alone] using head.symm
      simp
    have one := Trials.cons trial .nil
    refine ⟨after.ended flagged (one.holds flagged holds carries)
      (fun op member => carries op (trial.sublist.subset member)) others ended, ?_⟩
    exact fun op member => others op (after.sublist.subset member)

end attempts

/-- A manager has no usable record of a session, neither cached nor waiting to be written. -/
structure SessionManager.Quiet (u : Uuid) (m : SessionManager) : Prop where
  cached : ∀ x, m.cache.get? u = some x → x.invalidated = true
  pending : AllEnd u m.writes.queue.pending

namespace Stage

/-- A session that was in use has no usable record left. -/
structure Quiet (u : Uuid) (s : Stage) : Prop where
  manager : s.manager.Quiet u
  stored : s.backend.store.Ended u
  named : s.history.of u ≠ []

variable {o : Origin} {s s' : Stage} {u : Uuid}

section shut

/-- A session that was in use and is not to be had any more. It is cached with its flag at most, and
it is not loaded since there is a tombstone or no usable record is stored. -/
structure Shut (u : Uuid) (s : Stage) : Prop where
  cached : ∀ x, s.cache.get? u = some x → x.invalidated = true
  named : s.history.of u ≠ []
  unloaded : s.cache.isRevoked u = true ∨ s.backend.store.Ended u

/-- What is left of such a session after a move. New writes end it, and a tombstone keeps them off.
-/
structure Spared (u : Uuid) (s s' : Stage) : Prop where
  cached : ∀ x, s'.cache.get? u = some x → x.invalidated = true
  named : s'.history.of u ≠ []
  pending : ∃ new, (ofSession u s'.queue.pending).Sublist (ofSession u s.queue.pending ++ new) ∧
    (∀ op ∈ new, op.Ends u) ∧ (s.cache.isRevoked u = true → new = [])

theorem Spared.of_sublist (cached : ∀ x, s'.cache.get? u = some x → x.invalidated = true)
    (named : s'.history.of u ≠ []) (sub : s'.queue.pending.Sublist s.queue.pending) :
    Spared u s s' := by
  refine ⟨cached, named, [], ?_, by simp, fun _ => rfl⟩
  rw [List.append_nil]
  exact sub.filter _

theorem Spared.act {c : SessionCache} {op : WriteOp} {v : Uuid} {d : Deed}
    (cached : ∀ x, c.get? u = some x → x.invalidated = true) (named : s.history.of u ≠ [])
    (new : op.uuid = u → op.Ends u ∧ s.cache.isRevoked u = false) :
    Spared u s (s.act c op v d) := by
  refine ⟨cached, History.of_append_ne_nil [_] named, ofSession u [op], ?_, fun op' member => ?_,
    fun tombstone => ofSession_eq_nil.mpr fun op' member mine => ?_⟩
  · change (ofSession u (s.queue.enqueue op).2.pending).Sublist _
    rw [WriteQueue.pending_enqueue]
    split
    · simp only [ofSession_append, List.Sublist.refl]
    · exact List.sublist_append_left _ _
  · obtain ⟨same, mine⟩ := mem_ofSession.mp member
    obtain rfl := List.mem_singleton.mp same
    exact (new mine).1
  · obtain rfl := List.mem_singleton.mp member
    simp [(new mine).2] at tombstone

theorem Shut.move (h : s.Shut u) (sane : s.Sane) (m : Move o s s') : Spared u s s' := by
  have cached := h.cached
  cases m with
  | tick _ => exact .of_sublist cached h.named (.refl _)
  | read _ _ => exact .of_sublist cached h.named (.refl _)
  | worker worked _ => exact .of_sublist cached h.named worked.pending
  | @issue v p c x fresh _ started _ =>
    -- The identifier is a fresh one, and so not this.
    have other : v ≠ u := fun same => h.named (same ▸ fresh)
    obtain ⟨e, -, rfl⟩ := Session.start_eq_ok started
    refine .act (fun x found => ?_) h.named fun mine => absurd mine other
    rw [SessionCache.get?_insert, if_neg other] at found
    exact cached x found
  | @load v r p _ _ free stored unflagged _ _ _ _ =>
    have other : v ≠ u := by
      rintro rfl
      rcases h.unloaded with tombstone | ended
      · simp [(s.cache.isRevoked_eq_false v).mpr free] at tombstone
      · simp [ended r stored] at unflagged
    have mine : (Session.ofRecord r p).uuid = v := (sane.stored.get stored).1
    refine .of_sublist (fun x found => ?_) h.named (.refl _)
    change (s.cache.insert (.ofRecord r p)).get? u = some x at found
    rw [SessionCache.get?_insert, mine, if_neg other] at found
    exact cached x found
  | @access v x x' here unflagged touched =>
    obtain ⟨e, -, rfl⟩ := Session.touch_eq_ok touched
    have other : x.uuid ≠ u := by
      rw [(sane.manager.cached v x here).1]
      rintro rfl
      simp [cached x here] at unflagged
    refine .act (fun y found => ?_) h.named fun mine => absurd mine other
    rw [SessionCache.get?_insert, if_neg other] at found
    exact cached y found
  | @revoke v free =>
    have key : ∀ x, s.cache.get? v = some x → x.uuid = v := fun x found =>
      (sane.manager.cached v x found).1
    refine .act (fun x found => ?_) h.named fun mine => ?_
    · rw [SessionCache.get?_bury key] at found
      split at found
      · obtain ⟨y, -, rfl⟩ := Option.map_eq_some_iff.mp found
        rfl
      · exact cached x found
    · have ends := SessionManager.invalidation_ends key
      obtain rfl : v = u := ends.uuid.symm.trans mine
      exact ⟨ends, (s.cache.isRevoked_eq_false v).mpr free⟩
  | revokeAgain _ => exact .of_sublist cached (History.of_append_ne_nil [_] h.named) (.refl _)
  | sweep swept =>
    exact .of_sublist (fun x left => cached x (swept.live u x left)) h.named (.refl _)

end shut

section quiet

theorem Move.ended (m : Move o s s') (sane : s.Sane) (pending : AllEnd u s.queue.pending)
    (ended : s.backend.store.Ended u) : s'.backend.store.Ended u := by
  cases m with
  | read _ same => exact same ▸ ended
  | worker worked _ =>
    -- Along with the end of the session, that the records lie under their keys has to be kept.
    refine (worked.store (fun store => store.Holds (fun _ => True) ∧ store.Ended u)
      (fun op member store ⟨hs, ended⟩ => ?_) ⟨sane.stored, ended⟩).2
    have carries := sane.manager.pending op member
    exact ⟨holds_effect hs carries fun _ _ => trivial, ended.effect hs carries (pending op member)⟩
  | _ => exact ended

theorem Quiet.move (h : s.Quiet u) (sane : s.Sane) (m : Move o s s') : s'.Quiet u := by
  have shut : s.Shut u := ⟨h.manager.cached, h.named, .inr h.stored⟩
  obtain ⟨cached, named, new, sub, ends, -⟩ := shut.move sane m
  refine ⟨⟨cached, allEnd_iff.mpr fun op member => ?_⟩, m.ended sane h.manager.pending h.stored,
    named⟩
  rcases List.mem_append.mp (sub.subset member) with old | added
  · exact allEnd_iff.mp h.manager.pending op old
  · exact ends op added

end quiet

theorem Quiet.after (h : s.Quiet u) (sane : s.Sane) {c : Call} (legal : c.Legal o s.history) :
    (s.after c).Quiet u :=
  ((sane.moves legal).keep (I := fun s => s.Sane ∧ s.Quiet u)
    (fun _ _ kept move => ⟨kept.1.move move, kept.2.move kept.1 move⟩)
    ⟨⟨sane.manager, sane.stored⟩, h.manager, h.stored, h.named⟩).2

end Stage

theorem SessionManager.Quiet.not_resolve {m : SessionManager} {u : Uuid} (h : m.Quiet u)
    {P : SessionRecord → Prop} {b : Backend} (stored : b.store.Ended u) (hs : b.store.Holds P)
    {ctx : SessionContext} {token : String} {claims : Claims}
    (valid : ctx.issuer.validate token = .ok claims) (mine : claims.sid = u)
    (x : Uuid × Principal) : (m.resolve ctx b token).1 ≠ .ok x := by
  subst mine
  intro answer
  obtain ⟨-, -, -, ⟨y, cached, -, unflagged, -⟩ | ⟨-, r, found, unflagged, -⟩⟩ :=
    resolve_eq_ok (fun r found => (hs.get found).1) valid answer
  · simp [h.cached y cached] at unflagged
  · simp [stored r found] at unflagged

end SessionGateway
