import Mathlib.Logic.Relation
import SessionGateway.Proofs.Session.Stage

/-! Runs of one manager. Calls come one at a time, in any order and with steps of the worker in
between, at times that do not go back. Each is made of moves, so what every move keeps holds
throughout. -/

namespace SessionGateway

/-- A call on a manager, a step of its worker, or a step of a flush. The worker handles the oldest
message, or tries the pending writes again. -/
inductive Call where
  | create (ctx : SessionContext) (uuid : Uuid) (principal : Principal) (credential : List UInt8)
  | resolve (ctx : SessionContext) (token : String)
  | logout (ctx : SessionContext) (token : String)
  | invalidate (now : Instant) (uuid : Uuid)
  | invalidateUser (now : Instant) (user : String)
  | sweep (now : Instant) (reached : Uuid → Bool := fun _ => false)
  | work
  | retry
  | flush (ticket : Ticket)
  | sendBarrier

namespace Call

def time? : Call → Option Instant
  | create ctx _ _ _ => some ctx.now
  | resolve ctx _ => some ctx.now
  | logout ctx _ => some ctx.now
  | invalidate now _ => some now
  | invalidateUser now _ => some now
  | sweep now _ => some now
  | _ => none

theorem time_eq_of_mem {c : Call} {t : Instant} (time : t ∈ c.time?) (clock : Instant) :
    t = c.time?.getD clock := by
  rw [time]
  rfl

theorem sweep_or (c : Call) :
    (∃ t reached, c = .sweep t reached) ∨ ∀ t reached, c ≠ .sweep t reached := by
  cases c with
  | sweep t reached => exact .inl ⟨t, reached, rfl⟩
  | _ => simp

/-- What a call did to which sessions, the latest first, and what it left. -/
def perform (m : SessionManager) (b : Backend) :
    Call → List (Uuid × Deed) × SessionManager × Backend
  | create ctx u p c =>
    match m.create ctx u p c with
    | (.ok _, m) => ([(u, .issued p c)], m, b)
    | (.error _, m) => ([], m, b)
  | resolve ctx token =>
    match m.resolve ctx b token with
    | (.ok (u, _), m, b) => ([(u, .accessed)], m, b)
    | (.error _, m, b) => ([], m, b)
  | logout ctx token =>
    match m.logout ctx token with
    | (.ok u, m) => ([(u, .revoked)], m, b)
    | (.error _, m) => ([], m, b)
  | invalidate now u => ([(u, .revoked)], (m.invalidate now u).2, b)
  | invalidateUser now user =>
    match m.invalidateUser now b user with
    | (.ok _, m', b') => ((m.reached b user).reverse.map (·, .revoked), m', b')
    | (.error _, m', b') => ([], m', b')
  | sweep now reached => ([], (m.sweep now reached).2, b)
  | work =>
    let r := m.writes.queue.work b
    ([], { m with writes.queue := r.1 }, r.2)
  | retry =>
    let r := m.writes.queue.retry b
    ([], { m with writes.queue := r.1 }, r.2)
  | flush t => ([], { m with writes.queue := m.writes.queue.beginFlush t }, b)
  | sendBarrier => ([], { m with writes.queue := m.writes.queue.sendBarrier }, b)

def attempts (m : SessionManager) (b : Backend) : Call → List Attempt
  | work => m.writes.queue.workAttempts b
  | retry => m.writes.queue.retryAttempts b
  | _ => []

/-- A session is created under an identifier that was never in use, and principals come from the
sources. No text or credential is longer than a machine word can count. -/
def Legal (o : Origin) (h : History) : Call → Prop
  | create _ u p c => h.of u = [] ∧ o.backend.store.get u = .ok none ∧
    p.user.utf8ByteSize < 2 ^ 64 ∧ c.length < 2 ^ 64
  | resolve ctx _ => o.sources ctx.principals ∧
    ∀ name p, ctx.principals name = some p → p.user.utf8ByteSize < 2 ^ 64
  | _ => True

theorem legal_of_attempts {o : Origin} {h : History} {m : SessionManager} {b : Backend} {c : Call}
    (made : c.attempts m b ≠ []) : c.Legal o h := by
  cases c with
  | work => trivial
  | retry => trivial
  | _ => exact absurd rfl made

theorem Legal.withSettings {o : Origin} {h : History} {c : Call} (legal : c.Legal o h)
    (settings : SessionSettings) : c.Legal { o with settings } h := by
  cases c <;> exact legal

end Call

namespace Stage

/-- A call at the time that is set. -/
def perform (s : Stage) (c : Call) : Stage :=
  let r := c.perform s.manager s.backend
  { s with
    manager := r.2.1
    backend := r.2.2
    history := (r.1.map fun (u, d) => ⟨u, s.clock, d⟩) ++ s.history }

def after (s : Stage) (c : Call) : Stage :=
  { s with clock := c.time?.getD s.clock }.perform c

theorem trials_after (s : Stage) (c : Call) (made : c.attempts s.manager s.backend ≠ []) :
    Trials s.queue.pending s.backend (c.attempts s.manager s.backend) (s.after c).queue.pending
      (s.after c).backend := by
  cases c with
  | work => exact (s.queue.trials_work s.backend).1
  | retry => exact (s.queue.trials_retry s.backend).1
  | _ => exact absurd rfl made

end Stage

/-- The stages of a run. -/
inductive Run (o : Origin) : Stage → Prop
  | start {m : SessionManager} (started : SessionManager.start o.settings = .ok m) :
    Run o ⟨m, o.backend, o.clock, []⟩
  | call {s : Stage} (run : Run o s) (c : Call) (later : ∀ t ∈ c.time?, s.clock.Advances t)
    (legal : c.Legal o s.history) : Run o (s.after c)

namespace Stage

abbrev Moves (o : Origin) : Stage → Stage → Prop :=
  Relation.ReflTransGen (Move o)

/-- A move that takes no tombstone away. -/
def Gentle (o : Origin) (s s' : Stage) : Prop :=
  Move o s s' ∧ ∀ (u : Uuid) a, s.cache.revoked[u]? = some a → s'.cache.revoked[u]? = some a

abbrev GentleMoves (o : Origin) : Stage → Stage → Prop :=
  Relation.ReflTransGen (Gentle o)

theorem GentleMoves.moves {o : Origin} {s s' : Stage} (h : GentleMoves o s s') : Moves o s s' :=
  have weaker : Gentle o ≤ Move o := fun _ _ gentle => gentle.1
  Relation.ReflTransGen.mono weaker _ _ h

theorem Moves.keep {o : Origin} {I : Stage → Prop} {s s' : Stage} (moves : Moves o s s')
    (step : ∀ s s', I s → Move o s s' → I s') (holds : I s) : I s' := by
  induction moves with
  | refl => exact holds
  | tail _ move kept => exact step _ _ kept move

section moves

variable {o : Origin} {s : Stage} {P : SessionRecord → Prop}

theorem moves_create (settings : s.manager.settings = o.settings) {ctx : SessionContext}
    (now : ctx.now = s.clock) {u : Uuid} {p : Principal} {c : List UInt8}
    (legal : (Call.create ctx u p c).Legal o s.history) :
    GentleMoves o s (s.perform (.create ctx u p c)) := by
  obtain ⟨fresh, unused, user, credential⟩ := legal
  rcases s.manager.create_cases ctx u p c with ⟨e, answer⟩ | ⟨x, token, started, answer⟩
  · simp only [perform, Call.perform, answer]
    exact .refl
  · simp only [perform, Call.perform, answer]
    rw [settings, now] at started
    have fits : x.toRecord.Fits := by
      obtain ⟨e, -, rfl⟩ := Session.start_eq_ok started
      exact ⟨user, credential⟩
    exact .single ⟨.issue fresh unused started fits, fun _ _ set => set⟩

theorem move_invalidate {now : Instant} (set : now = s.clock) (u : Uuid) :
    Gentle o s ({ s with manager := (s.manager.invalidate now u).2 }.note u .revoked) := by
  subst set
  cases revoked : s.cache.isRevoked u with
  | true =>
    rw [SessionManager.invalidate_of_revoked revoked]
    obtain ⟨a, tombstone⟩ := (s.cache.isRevoked_eq_true u).mp revoked
    exact ⟨.revokeAgain tombstone, fun _ _ set => set⟩
  | false =>
    rw [SessionManager.invalidate_of_free revoked]
    have free := (s.cache.isRevoked_eq_false u).mp revoked
    exact ⟨.revoke free, fun v a set => SessionCache.revoked_bury_of_free free set s.clock⟩

theorem moves_invalidateAll {now : Instant} (us : List Uuid) (s : Stage) (set : now = s.clock) :
    GentleMoves o s { s with
      manager := (s.manager.invalidateAll now us).2
      history := (us.reverse.map fun u => ⟨u, s.clock, .revoked⟩) ++ s.history } := by
  induction us generalizing s with
  | nil => exact .refl
  | cons u us ih =>
    refine .head (move_invalidate set u) ?_
    have rest := ih ({ s with manager := (s.manager.invalidate now u).2 }.note u .revoked) set
    simpa [SessionManager.invalidateAll, note] using rest

theorem moves_logout {ctx : SessionContext} (now : ctx.now = s.clock) (token : String) :
    GentleMoves o s (s.perform (.logout ctx token)) := by
  simp only [perform, Call.perform, SessionManager.logout]
  cases ctx.issuer.validate token with
  | error e => exact .refl
  | ok claims => exact .single (move_invalidate now claims.sid)

theorem moves_invalidateUser {now : Instant} (set : now = s.clock) (user : String) :
    GentleMoves o s (s.perform (.invalidateUser now user)) := by
  have read : Gentle o s { s with backend := s.backend.range.2 } :=
    ⟨.read s.backend.later_range s.backend.store_range, fun _ _ set => set⟩
  simp only [perform, Call.perform]
  rcases s.manager.invalidateUser_cases now s.backend user with
    ⟨_, _, answer⟩ | ⟨_, answer⟩
  · rw [answer]
    exact .single read
  · rw [answer]
    refine .head read ?_
    have all := moves_invalidateAll (o := o) (s.manager.reached s.backend user)
      { s with backend := s.backend.range.2 } set
    simpa [Function.comp_def] using all

theorem move_access (settings : s.manager.settings = o.settings) {ctx : SessionContext}
    (now : ctx.now = s.clock) {claims : Claims} {x x' : Session}
    (cached : s.cache.get? claims.sid = some x)
    (outcome : s.manager.accessed ctx claims x = .ok x') :
    Gentle o s (s.act (s.cache.insert x') (.put x'.toRecord) claims.sid .accessed) := by
  obtain ⟨unflagged, -, -, touched⟩ := SessionManager.accessed_eq_ok.mp outcome
  rw [now, settings] at touched
  exact ⟨.access cached unflagged touched, fun _ _ set => set⟩

theorem moves_resolve (settings : s.manager.settings = o.settings)
    (stored : s.backend.store.Holds P) {ctx : SessionContext} (now : ctx.now = s.clock)
    {token : String} (legal : (Call.resolve ctx token).Legal o s.history) :
    GentleMoves o s (s.perform (.resolve ctx token)) := by
  obtain ⟨used, fits⟩ := legal
  simp only [perform, Call.perform, SessionManager.resolve]
  cases ctx.issuer.validate token with
  | error e => exact .refl
  | ok claims =>
    simp only [SessionManager.resolveClaims]
    cases revoked : s.cache.isRevoked claims.sid with
    | true => exact .refl
    | false =>
      have read : Gentle o s { s with backend := (s.backend.get claims.sid).2 } :=
        ⟨.read (s.backend.later_get _) (s.backend.store_get _), fun _ _ set => set⟩
      have outcome : s.manager.Found ctx s.backend claims.sid (s.manager.find ctx s.backend _) :=
        SessionManager.found revoked fun r answer => (stored.get answer).1
      generalize s.manager.find ctx s.backend claims.sid = found at outcome
      cases outcome with
      | missed gone => exact .single read
      | @cached x cached =>
        dsimp only
        cases access : s.manager.accessed ctx claims x with
        | error e => exact .refl
        | ok x' => exact .single (move_access settings now cached access)
      | @loaded r p gone answer unflagged future found =>
        have free := (s.cache.isRevoked_eq_false claims.sid).mp revoked
        have same : (s.backend.get claims.sid).2.store = s.backend.store := s.backend.store_get _
        have load := Move.load (o := o) (s := { s with backend := (s.backend.get claims.sid).2 })
          gone free (same ▸ answer) unflagged (now ▸ future) used found (fits _ p found)
        have loaded : GentleMoves o s _ := .head read (.single ⟨load, fun _ _ set => set⟩)
        have cached : (s.cache.insert (.ofRecord r p)).get? claims.sid = some (.ofRecord r p) := by
          rw [SessionCache.get?_insert]
          exact if_pos (stored.get answer).1
        dsimp only
        cases access : SessionManager.accessed
            { s.manager with cache := s.cache.insert (.ofRecord r p) } ctx claims
            (.ofRecord r p) with
        | error e => exact loaded
        | ok x' =>
          let s' := { s with backend := (s.backend.get claims.sid).2 }.withCache
            (s.cache.insert (.ofRecord r p))
          exact loaded.tail (move_access (s := s') settings now cached access)

theorem move_worker {q : WriteQueue} {b : Backend} (worked : s.queue.Worked s.backend q b)
    (settles : s.queue.Settles s.backend q b) : Gentle o s (s.withQueue q b) :=
  ⟨.worker worked settles, fun _ _ set => set⟩

theorem move_sweep (settings : s.manager.settings = o.settings) {t : Instant} (now : t = s.clock)
    (reached : Uuid → Bool) : Move o s (s.perform (.sweep t reached)) := by
  have swept := SessionCache.swept t o.settings.grace (o.settings.ttl + o.settings.grace) s.cache
    reached
  subst now
  rw [← settings] at swept
  exact .sweep (settings ▸ swept)

theorem gentle_perform (settings : s.manager.settings = o.settings)
    (stored : s.backend.store.Holds P) (c : Call) (kept : ∀ t reached, c ≠ .sweep t reached)
    (now : ∀ t ∈ c.time?, t = s.clock) (legal : c.Legal o s.history) :
    GentleMoves o s (s.perform c) := by
  cases c with
  | create ctx u p c => exact moves_create settings (now _ rfl) legal
  | resolve ctx token => exact moves_resolve settings stored (now _ rfl) legal
  | logout ctx token => exact moves_logout (now _ rfl) token
  | invalidate t u => exact .single (move_invalidate (now _ rfl) u)
  | invalidateUser t user => exact moves_invalidateUser (now _ rfl) user
  | sweep t reached => exact absurd rfl (kept t reached)
  | work => exact .single (move_worker (WriteQueue.worked_work _ _) (WriteQueue.settles_work _ _))
  | retry =>
    exact .single (move_worker (WriteQueue.worked_retry _ _) (WriteQueue.settles_retry _ _))
  | flush t =>
    obtain ⟨worked, settles⟩ := WriteQueue.worked_of_pending s.backend
      (s.queue.pending_beginFlush t) (s.queue.dropped_beginFlush t)
    exact .single (move_worker worked settles)
  | sendBarrier =>
    obtain ⟨worked, settles⟩ := WriteQueue.worked_of_pending s.backend
      s.queue.pending_sendBarrier s.queue.dropped_sendBarrier
    exact .single (move_worker worked settles)

theorem moves_perform (settings : s.manager.settings = o.settings)
    (stored : s.backend.store.Holds P) (c : Call) (now : ∀ t ∈ c.time?, t = s.clock)
    (legal : c.Legal o s.history) : Moves o s (s.perform c) := by
  obtain ⟨t, reached, rfl⟩ | kept := c.sweep_or
  · exact .single (move_sweep settings (now t rfl) reached)
  · exact (gentle_perform settings stored c kept now legal).moves

theorem moves_after (h : Coherent o s) {c : Call} (later : ∀ t ∈ c.time?, s.clock.Advances t)
    (legal : c.Legal o s.history) : Moves o s (s.after c) := by
  have forward : s.clock.Advances (c.time?.getD s.clock) := by
    cases time : c.time? with
    | none => exact .refl _
    | some t => exact later t time
  have moves := moves_perform (s := { s with clock := c.time?.getD s.clock }) h.settings h.stored c
    (fun _ time => Call.time_eq_of_mem time s.clock) legal
  exact .head (.tick forward) moves

end moves

end Stage

/-- What holds at first and is kept by every move of a coherent stage holds throughout a run, and
every stage is coherent. -/
theorem Run.invariant {o : Origin} {I : Stage → Prop} (sound : o.Sound)
    (start : ∀ m, SessionManager.start o.settings = .ok m → I ⟨m, o.backend, o.clock, []⟩)
    (step : ∀ s s', s.Coherent o → I s → s.Move o s' → I s') {s : Stage} (run : Run o s) :
    s.Coherent o ∧ I s := by
  induction run with
  | start started => exact ⟨.start sound started, start _ started⟩
  | call _ c later legal ih =>
    have moves := Stage.moves_after ih.1 later legal
    exact moves.keep (I := fun s => s.Coherent o ∧ I s)
      (fun s s' h move => ⟨h.1.move move, step s s' h.1 h.2 move⟩) ih

theorem Run.coherent {o : Origin} {s : Stage} (sound : o.Sound) (run : Run o s) : s.Coherent o :=
  (run.invariant (I := fun _ => True) sound (fun _ _ => trivial) fun _ _ _ _ _ => trivial).1

/-! A clock that goes forward into a leap second, which is not a run. A session is stored and then
revoked in the leap second, so its tombstone is of age before its record expires: it is swept while
the deletion still waits. -/

namespace LeapSecond

/-- 23:59:59.95 at the end of 2099. -/
def opening : Instant := ⟨4102444799, 950000000, by decide, by decide⟩

/-- A tenth of a second later, at 23:59:60.05. -/
def inside : Instant := ⟨4102444799, 1050000000, by decide, by decide⟩

/-- Six hours after the opening, less than half a second short. -/
def late : Instant := ⟨4102466399, 500000000, by decide, by decide⟩

def context (now : Instant) : SessionContext :=
  ⟨⟨fun _ => .ok "", fun _ => .ok ⟨.zero, "", 0, 0⟩, .ofSeconds 1⟩, fun _ => some default, now⟩

def settings : SessionSettings := { sweepGraceSecs := 0 }

def stored : Stage :=
  (Stage.after ⟨.ofSettings settings, {}, opening, []⟩
    (.create (context opening) .zero default [])).after .work

def swept : Stage :=
  (stored.after (.invalidate inside .zero)).after (.sweep late)

end LeapSecond

end SessionGateway
