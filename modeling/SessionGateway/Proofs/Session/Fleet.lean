import SessionGateway.Session.Cluster
import SessionGateway.Proofs.Session.Tombstone

/-! Several managers over one store. An invalidation whose write took effect holds on every node, if
the node that made it kept its tombstone until then and no other node had the session cached or a
write of it pending. The steps of the nodes and of their workers come in any order, and nothing is
asked of the clock that they share. -/

namespace SessionGateway

open WriteOp Attempt

/-- A manager has not cached the session and has no write of it. -/
structure SessionManager.Ignores (u : Uuid) (m : SessionManager) : Prop where
  uncached : m.cache.get? u = none
  unwritten : ∀ op ∈ m.writes.queue.pending, op.uuid ≠ u

theorem SessionManager.Ignores.quiet {u : Uuid} {m : SessionManager} (h : m.Ignores u) :
    m.Quiet u := by
  refine ⟨fun x cached => ?_, fun op member mine => absurd mine (h.unwritten op member)⟩
  rw [h.uncached] at cached
  cases cached

/-- A cluster in the course of a run, with the time of the latest call and what was done so far. -/
structure Fleet extends Cluster where
  clock : Instant
  history : History

/-- A new node starts, or there is a call on a node or a step of its worker. A node that is started
again is a new one. -/
inductive FleetStep where
  | join (settings : SessionSettings)
  | call (n : Nat) (c : Call)

namespace Fleet

def stage (f : Fleet) (m : SessionManager) : Stage :=
  ⟨m, f.backend, f.clock, f.history⟩

def put (f : Fleet) (n : Nat) (s : Stage) : Fleet :=
  { f.setNode n s.manager with backend := s.backend, clock := s.clock, history := s.history }

def join (f : Fleet) (settings : SessionSettings) : Fleet :=
  match SessionManager.start settings with
  | .ok m => { f with nodes := f.nodes ++ [m] }
  | .error _ => f

def after (f : Fleet) : FleetStep → Fleet
  | .join settings => f.join settings
  | .call n c => f.nodes[n]?.elim f fun m => f.put n ((f.stage m).after c)

def start (o : Origin) : Fleet where
  nodes := []
  backend := o.backend
  clock := o.clock
  history := []

def hasTombstone (f : Fleet) (n : Nat) (u : Uuid) : Bool :=
  f.nodes[n]?.any (·.cache.isRevoked u)

end Fleet

namespace FleetStep

/-- Sessions are created under identifiers that no node ever used. -/
def Legal (o : Origin) (f : Fleet) : FleetStep → Prop
  | join _ => True
  | call _ c => c.Legal o f.history

def attempts (n : Nat) (f : Fleet) : FleetStep → List Attempt
  | join _ => []
  | call k c => if k = n then f.nodes[n]?.elim [] fun m => c.attempts m f.backend else []

end FleetStep

namespace Fleet

inductive Onward (o : Origin) (f : Fleet) : Fleet → Prop
  | refl : Onward o f f
  | step {g : Fleet} (run : Onward o f g) (e : FleetStep) (legal : e.Legal o g) :
    Onward o f (g.after e)

/-- The same, while a node keeps its tombstone of the session. The attempts are those of the node.
-/
inductive Held (o : Origin) (n : Nat) (u : Uuid) (f : Fleet) : List Attempt → Fleet → Prop
  | refl : Held o n u f [] f
  | step {as : List Attempt} {g : Fleet} (run : Held o n u f as g) (e : FleetStep)
    (legal : e.Legal o g) (kept : (g.after e).hasTombstone n u = true) :
    Held o n u f (as ++ e.attempts n g) (g.after e)

variable {o : Origin} {f g h : Fleet} {n : Nat} {u : Uuid} {m : SessionManager}

section nodes

theorem after_call (node : f.nodes[n]? = some m) (c : Call) :
    f.after (.call n c) = f.put n ((f.stage m).after c) := by
  rw [after, node]
  rfl

theorem getElem?_put_self (node : f.nodes[n]? = some m) (s : Stage) :
    (f.put n s).nodes[n]? = some s.manager := by
  obtain ⟨short, -⟩ := List.getElem?_eq_some_iff.mp node
  exact List.getElem?_set_self short

theorem getElem?_put_ne {k : Nat} (ne : n ≠ k) (s : Stage) : (f.put n s).nodes[k]? = f.nodes[k]? :=
  List.getElem?_set_ne ne

theorem forall_put {P : SessionManager → Prop} {s : Stage} (mine : P s.manager)
    (others : ∀ k m, k ≠ n → f.nodes[k]? = some m → P m) : ∀ m ∈ (f.put n s).nodes, P m := by
  intro m member
  obtain ⟨k, found⟩ := List.mem_iff_getElem?.mp member
  by_cases same : n = k
  · subst same
    rw [put, Cluster.setNode, List.getElem?_set, if_pos rfl] at found
    split at found
    · cases found
      exact mine
    · cases found
  · rw [getElem?_put_ne same] at found
    exact others k m (Ne.symm same) found

inductive Turn (o : Origin) (f : Fleet) : FleetStep → Fleet → Prop
  | idle {e : FleetStep} (silent : ∀ n, e.attempts n f = []) : Turn o f e f
  | join {settings : SessionSettings} :
    Turn o f (.join settings) { f with nodes := f.nodes ++ [.ofSettings settings] }
  | call {n : Nat} {m : SessionManager} {c : Call} (node : f.nodes[n]? = some m)
    (legal : c.Legal o f.history) : Turn o f (.call n c) (f.put n ((f.stage m).after c))

theorem turn (f : Fleet) {e : FleetStep} (legal : e.Legal o f) : Turn o f e (f.after e) := by
  cases e with
  | join settings =>
    rw [after, join]
    cases started : SessionManager.start settings with
    | error _ => exact .idle fun _ => rfl
    | ok m =>
      obtain rfl := SessionManager.start_eq_ok started
      exact .join
  | call n c =>
    rw [after]
    cases node : f.nodes[n]? with
    | none =>
      refine .idle fun k => ?_
      by_cases same : n = k
      · subst same
        simp [FleetStep.attempts, node]
      · simp [FleetStep.attempts, same]
    | some m => exact .call node legal

end nodes

section quiet

structure Sane (f : Fleet) : Prop where
  nodes : ∀ m ∈ f.nodes, m.Sane
  stored : f.backend.store.Holds fun _ => True

/-- A session that was in use has no usable record left, on any node or in the store. -/
structure Quiet (u : Uuid) (f : Fleet) : Prop where
  nodes : ∀ m ∈ f.nodes, m.Quiet u
  stored : f.backend.store.Ended u
  named : f.history.of u ≠ []

theorem quiet_ofSettings (settings : SessionSettings) (u : Uuid) :
    (SessionManager.ofSettings settings).Quiet u := by
  refine ⟨fun x cached => ?_, fun op member => ?_⟩
  · simp [SessionManager.ofSettings, SessionCache.get?] at cached
  · simp [SessionManager.ofSettings, WriteQueue.ofCapacity, WriteQueue.pending] at member

theorem Sane.stage (h : f.Sane) (node : f.nodes[n]? = some m) : (f.stage m).Sane :=
  ⟨h.nodes m (List.mem_of_getElem? node), h.stored⟩

theorem Sane.after (h : f.Sane) {e : FleetStep} (legal : e.Legal o f) : (f.after e).Sane := by
  have turn := f.turn legal
  generalize f.after e = f' at turn
  cases turn with
  | idle _ => exact h
  | @join settings =>
    exact ⟨List.forall_mem_append.mpr ⟨h.nodes, List.forall_mem_singleton.mpr
      (.ofSettings settings)⟩, h.stored⟩
  | call node legal =>
    have sane := (h.stage node).after legal
    exact ⟨forall_put sane.manager fun k m _ found => h.nodes m (List.mem_of_getElem? found),
      sane.stored⟩

theorem Quiet.after (h : f.Quiet u) (sane : f.Sane) {e : FleetStep} (legal : e.Legal o f) :
    (f.after e).Quiet u := by
  have turn := f.turn legal
  generalize f.after e = f' at turn
  cases turn with
  | idle _ => exact h
  | @join settings =>
    exact ⟨List.forall_mem_append.mpr ⟨h.nodes, List.forall_mem_singleton.mpr
      (quiet_ofSettings settings u)⟩, h.stored, h.named⟩
  | @call n m c node legal =>
    have before : (f.stage m).Quiet u :=
      ⟨h.nodes m (List.mem_of_getElem? node), h.stored, h.named⟩
    have quiet := before.after (sane.stage node) legal
    exact ⟨forall_put quiet.manager fun k m _ found => h.nodes m (List.mem_of_getElem? found),
      quiet.stored, quiet.named⟩

theorem sane_start (keyed : o.backend.store.Holds fun _ => True) : (start o).Sane :=
  ⟨by simp [start], keyed⟩

theorem Onward.sane (run : Onward o f g) (h : f.Sane) : g.Sane := by
  induction run with
  | refl => exact h
  | step _ e legal ih => exact ih.after legal

theorem Onward.quiet (run : Onward o f g) (sane : f.Sane) (h : f.Quiet u) : g.Quiet u := by
  induction run with
  | refl => exact h
  | step run e legal ih => exact ih.after (run.sane sane) legal

end quiet

section barred

variable {as : List Attempt} {line : List WriteOp}

structure Barred (n : Nat) (u : Uuid) (as : List Attempt) (line : List WriteOp) (f : Fleet) :
    Prop where
  sane : f.Sane
  node : ∃ m, f.nodes[n]? = some m ∧ (f.stage m).Barred u as line

theorem Barred.after (h : f.Barred n u as line) {e : FleetStep} (legal : e.Legal o f)
    (kept : (f.after e).hasTombstone n u = true) :
    (f.after e).Barred n u (as ++ e.attempts n f) line := by
  refine ⟨h.sane.after legal, ?_⟩
  obtain ⟨m, node, barred⟩ := h.node
  have turn := f.turn legal
  generalize f.after e = f' at turn kept
  cases turn with
  | idle silent =>
    rw [silent, List.append_nil]
    exact ⟨m, node, barred⟩
  | join =>
    rw [FleetStep.attempts, List.append_nil]
    obtain ⟨short, -⟩ := List.getElem?_eq_some_iff.mp node
    exact ⟨m, (List.getElem?_append_left short).trans node, barred.bars, barred.named, barred.line⟩
  | @call k m' c node' legal =>
    by_cases same : k = n
    · subst same
      obtain rfl : m' = m := Option.some.inj (node'.symm.trans node)
      have put := getElem?_put_self node ((f.stage m').after c)
      rw [hasTombstone, put] at kept
      rw [FleetStep.attempts, if_pos rfl, node]
      exact ⟨_, put, barred.after (h.sane.stage node) legal kept⟩
    · rw [FleetStep.attempts, if_neg same, List.append_nil]
      exact ⟨m, (getElem?_put_ne same _).trans node, barred.bars,
        History.of_append_ne_nil _ barred.named, barred.line⟩

theorem Held.barred (run : Held o n u f as g) (h : f.Barred n u [] line) :
    g.Barred n u as line := by
  induction run with
  | refl => exact h
  | step _ e legal kept ih => exact ih.after legal kept

theorem barred_invalidate (sane : f.Sane) (node : f.nodes[n]? = some m) {now : Instant}
    (fresh : (m.invalidate now u).1 = true) :
    (f.after (.call n (.invalidate now u))).Barred n u []
      (ofSession u m.writes.queue.pending ++ [m.invalidation u (m.cache.get? u)]) := by
  refine ⟨sane.after (o := default) trivial, ?_⟩
  rw [after_call node]
  exact ⟨_, getElem?_put_self node _, Stage.barred_invalidate (sane.stage node) fresh⟩

end barred

/-- If the write of an invalidation takes effect while its node still has the tombstone, and no
other node has the session cached or a write of it pending, then the session is over for the whole
fleet: its tokens resolve on no node, those that start later included, and the store never has a
usable record of it. The attempt is at that write, since as many writes of the session were over
with on the node by then as were pending before the call. -/
theorem invalidation_holds {o : Origin} (keyed : o.backend.store.Holds fun _ => True)
    {f : Fleet} (reached : Onward o (start o) f) {n : Nat} {m : SessionManager}
    (node : f.nodes[n]? = some m) {now : Instant} {u : Uuid}
    (fresh : (m.invalidate now u).1 = true) {as : List Attempt} {g : Fleet}
    (held : Held o n u (f.after (.call n (.invalidate now u))) as g) {m' : SessionManager}
    (node' : g.nodes[n]? = some m')
    (others : ∀ k m, k ≠ n → g.nodes[k]? = some m → m.Ignores u)
    {c : Call} {before after : List Attempt} {a : Attempt}
    (tried : c.attempts m' g.backend = before ++ a :: after) (mine : a.op.uuid = u)
    (place : place u (as ++ before) = (ofSession u m.writes.queue.pending).length)
    (done : a.succeeded = true) {h : Fleet} (onward : Onward o (g.after (.call n c)) h) :
    a.op = m.invalidation u (m.cache.get? u) ∧ h.backend.store.Ended u ∧
      ∀ m ∈ h.nodes, ∀ ctx token claims, ctx.issuer.validate token = .ok claims →
        claims.sid = u → ∀ x, (m.resolve ctx h.backend token).1 ≠ .ok x := by
  have sane := reached.sane (sane_start keyed)
  have barred := held.barred (barred_invalidate sane node fresh)
  obtain ⟨m₁, found, line⟩ := barred.node
  obtain rfl : m₁ = m' := Option.some.inj (found.symm.trans node')
  have ends := SessionManager.invalidation_ends (m := m) (u := u) fun x cached =>
    ((sane.nodes m (List.mem_of_getElem? node)).cached u x cached).1
  obtain ⟨same, -⟩ := line.last tried mine place
  have stage := line.quiet (barred.sane.stage node') ends tried mine place done
  have made : c.attempts m₁ g.backend ≠ [] := by simp [tried]
  have sane' : (g.after (.call n c)).Sane :=
    barred.sane.after (o := o) (Call.legal_of_attempts made)
  have quiet : (g.after (.call n c)).Quiet u := by
    rw [after_call node']
    refine ⟨forall_put stage.manager fun k m'' other found => ?_, stage.stored, stage.named⟩
    exact (others k m'' other found).quiet
  have final := onward.quiet sane' quiet
  have keyed' := (onward.sane sane').stored
  exact ⟨same, final.stored, fun m member ctx token claims valid mine x =>
    (final.nodes m member).not_resolve final.stored keyed' valid mine x⟩

theorem invalidation_holds_after_retry :
    let o : Origin :=
      { (default : Origin) with
        backend := { faults := fun call n =>
          if call = .put ∧ n = 0 then some (.error (.unavailable "")) else none } }
    let ctx : SessionContext :=
      ⟨⟨fun _ => .ok "", fun _ => .ok ⟨.zero, "", 0, 0⟩, .ofSeconds 1⟩, fun _ => none, .epoch⟩
    let f := (((start o).after (.join {})).after (.join {})).after
      (.call 0 (.create ctx .zero default []))
    let g := ((f.after (.call 0 (.invalidate .epoch .zero))).after (.call 0 .work)).after
      (.call 0 .work)
    let h := (g.after (.call 0 .retry)).after (.join {})
    h.nodes.length = 3 ∧ h.backend.store.Ended .zero ∧
      ∀ m ∈ h.nodes, ∀ x, (m.resolve ctx h.backend "").1 ≠ .ok x := by
  intro o ctx f g h
  have keyed : o.backend.store.Holds fun _ => True := SessionStore.holds_empty
  have reached : Onward o (start o) f :=
    ((Onward.refl.step (.join {}) trivial).step (.join {}) trivial).step
      (.call 0 (.create ctx .zero default [])) ⟨rfl, rfl, by decide, by decide⟩
  let m := f.nodes.getD 0 (.ofSettings {})
  let m' := g.nodes.getD 0 (.ofSettings {})
  have node : f.nodes[0]? = some m := rfl
  have node' : g.nodes[0]? = some m' := rfl
  have fresh : (m.invalidate .epoch .zero).1 = true := by decide +kernel
  have held := ((Held.refl (o := o) (n := 0) (u := .zero)
    (f := f.after (.call 0 (.invalidate .epoch .zero)))).step (.call 0 .work) trivial
      (by decide +kernel)).step (.call 0 .work) trivial (by decide +kernel)
  have nodes : g.nodes = [m', .ofSettings {}] := rfl
  have others : ∀ k m, k ≠ 0 → g.nodes[k]? = some m → m.Ignores .zero := by
    intro k m ne found
    rw [nodes] at found
    rcases k with _ | _ | k
    · exact absurd rfl ne
    · cases found
      exact ⟨rfl, by decide⟩
    · cases found
  let round := Call.attempts m' g.backend .retry
  let second := round.getD 1 (.make {} ⟨.delete .zero, 0⟩)
  have tried : round = round.take 1 ++ second :: round.drop 2 := by
    have two : 1 < round.length := by decide +kernel
    change round = round.take 1 ++ round.getD 1 _ :: round.drop 2
    rw [List.getD_eq_getElem?_getD, List.getElem?_eq_getElem two, Option.getD_some,
      ← List.drop_eq_getElem_cons two, List.take_append_drop]
  have done : second.succeeded = true := by decide +kernel
  have onward : Onward o (g.after (.call 0 .retry)) h := Onward.refl.step (.join {}) trivial
  obtain ⟨-, ended, nowhere⟩ := invalidation_holds keyed reached node fresh held node' others tried
    (by decide +kernel) (by decide +kernel) done onward
  exact ⟨by decide +kernel, ended, fun m member x => nowhere m member ctx "" _ rfl rfl x⟩

end Fleet

end SessionGateway
