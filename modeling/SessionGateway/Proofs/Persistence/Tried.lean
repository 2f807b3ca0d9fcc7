import SessionGateway.Proofs.Persistence.Ledger

/-! Which of the accepted writes were tried. Of each session these are the writes that are over with
and, if one of its writes waits in the retry list, the next one. -/

namespace SessionGateway

open WriteOp Attempt

namespace Attempt

/-- One of the attempts is at the write with this number among those of the session. -/
def Reach (u : Uuid) (n : Nat) (as : List Attempt) : Prop :=
  ∃ before a after, as = before ++ a :: after ∧ a.op.uuid = u ∧ place u before = n

/-- The write of the session that is next was tried already. -/
def Stuck (u : Uuid) (as : List Attempt) : Prop :=
  Reach u (place u as) as

section reach

variable {u : Uuid} {n : Nat} {a : Attempt} {as : List Attempt}

theorem place_singleton_of_ne (other : a.op.uuid ≠ u) : place u [a] = 0 := by
  rw [place, closed_singleton]
  split
  · rw [ofSession_cons, if_neg other, ofSession_nil, List.length_nil]
  · rfl

theorem place_singleton_of_open (again : ¬ a.closes = true) : place u [a] = 0 := by
  rw [place, closed_singleton, if_neg again, ofSession_nil, List.length_nil]

theorem place_singleton_le (u : Uuid) (a : Attempt) : place u [a] ≤ 1 := by
  rw [place, closed_singleton]
  split
  · exact List.length_filter_le ..
  · exact Nat.zero_le _

theorem place_cons (u : Uuid) (a : Attempt) (as : List Attempt) :
    place u (a :: as) = place u [a] + place u as :=
  place_append [a] as u

theorem Reach.append (h : Reach u n as) (as' : List Attempt) : Reach u n (as ++ as') := by
  obtain ⟨before, a, after, rfl, mine, number⟩ := h
  exact ⟨before, a, after ++ as', by simp, mine, number⟩

theorem Reach.cons (h : Reach u n as) (a : Attempt) : Reach u (place u [a] + n) (a :: as) := by
  obtain ⟨before, c, after, rfl, mine, rfl⟩ := h
  exact ⟨a :: before, c, after, rfl, mine, place_cons u a before⟩

theorem Reach.le (h : Reach u n as) : n ≤ place u as := by
  obtain ⟨before, a, after, rfl, -, rfl⟩ := h
  rw [place_append]
  exact Nat.le_add_right _ _

theorem reach_of_lt (h : n < place u as) : Reach u n as := by
  induction as generalizing n with
  | nil => exact absurd h (Nat.not_lt_zero n)
  | cons a as ih =>
    rw [place_cons] at h
    have atMost := place_singleton_le u a
    by_cases mine : a.op.uuid = u
    · cases n with
      | zero => exact ⟨[], a, as, rfl, mine, rfl⟩
      | succ n =>
        by_cases closes : place u [a] = 1
        · have reach := (ih (n := n) (by omega)).cons a
          rwa [closes, Nat.add_comm] at reach
        · have reach := (ih (n := n + 1) (by omega)).cons a
          rwa [show place u [a] = 0 by omega, Nat.zero_add] at reach
    · have none := place_singleton_of_ne mine
      have reach := (ih (n := n) (by omega)).cons a
      rwa [none, Nat.zero_add] at reach

theorem reach_iff : Reach u n as ↔ n < place u as ∨ n = place u as ∧ Stuck u as := by
  constructor
  · intro h
    rcases Nat.lt_or_eq_of_le h.le with before | rfl
    · exact .inl before
    · exact .inr ⟨rfl, h⟩
  · rintro (before | ⟨rfl, stuck⟩)
    · exact reach_of_lt before
    · exact stuck

theorem Stuck.append (h : Stuck u as) (other : a.op.uuid ≠ u) : Stuck u (as ++ [a]) := by
  have same : place u (as ++ [a]) = place u as := by
    rw [place_append, place_singleton_of_ne other, Nat.add_zero]
  rw [Stuck, same]
  exact Reach.append h [a]

theorem stuck_of_open (as : List Attempt) (again : ¬ a.closes = true) :
    Stuck a.op.uuid (as ++ [a]) := by
  refine ⟨as, a, [], rfl, rfl, ?_⟩
  rw [place_append, place_singleton_of_open again, Nat.add_zero]

end reach

end Attempt

namespace WriteQueue

def HeadsTried (q : WriteQueue) (as : List Attempt) : Prop :=
  ∀ w ∈ q.retries, Stuck w.op.uuid as

theorem stuck_retryList {blocked : List Uuid} {as : List Attempt}
    (stuck : ∀ u ∈ blocked, Stuck u as) (q : WriteQueue) (b : Backend) (ws : List PendingWrite) :
    let new := roundAttempts blocked b ws
    (∀ u ∈ blocked, Stuck u (as ++ new)) ∧
      ∀ w ∈ (retryList blocked q b ws).1, Stuck w.op.uuid (as ++ new) := by
  -- By induction on the writes: a blocked session stays stuck, and a failure makes its own so.
  induction ws generalizing blocked as q b with
  | nil => simpa [roundAttempts, retryList] using stuck
  | cons w ws ih =>
    by_cases hw : w.op.uuid ∈ blocked
    · obtain ⟨kept, rest⟩ := ih stuck q b
      rw [retryList_cons_blocked hw, roundAttempts, if_pos hw]
      exact ⟨kept, List.forall_mem_cons.mpr ⟨kept _ hw, rest⟩⟩
    · obtain ⟨q', tried, -, -⟩ := q.attempt_eq b w
      let a := Attempt.make b w
      have others : ∀ u ∈ blocked, Stuck u (as ++ [a]) :=
        fun u member => (stuck u member).append fun same => hw (same ▸ member)
      rw [roundAttempts, if_neg hw]
      by_cases closes : (Attempt.make b w).closes = true
      · rw [if_pos closes] at tried
        rw [retryList_cons_none hw tried]
        obtain ⟨kept, rest⟩ := ih others q' (w.op.apply b).2
        rw [List.append_assoc] at kept rest
        simp only [if_pos closes]
        exact ⟨kept, rest⟩
      · rw [if_neg closes] at tried
        rw [retryList_cons_some hw tried]
        have blocked' : ∀ u ∈ w.op.uuid :: blocked, Stuck u (as ++ [a]) :=
          List.forall_mem_cons.mpr ⟨stuck_of_open as closes, others⟩
        obtain ⟨kept, rest⟩ := ih blocked' q' (w.op.apply b).2
        rw [List.append_assoc] at kept rest
        simp only [if_neg closes]
        obtain ⟨mine, kept⟩ := List.forall_mem_cons.mp kept
        exact ⟨kept, List.forall_mem_cons.mpr ⟨mine, rest⟩⟩

theorem headsTried_retry (q : WriteQueue) (as : List Attempt) (b : Backend) :
    (q.retry b).1.HeadsTried (as ++ q.retryAttempts b) := by
  have none : ∀ u ∈ ([] : List Uuid), Stuck u as := by simp
  rw [retry_eq]
  exact (stuck_retryList none _ b q.retries).2

theorem HeadsTried.handleWrite {q : WriteQueue} {as : List Attempt} (h : q.HeadsTried as)
    (b : Backend) (op : WriteOp) :
    (q.handleWrite b op).1.HeadsTried
      (as ++ if q.isBlocked op.uuid then [] else [.make b ⟨op, 0⟩]) := by
  by_cases blocked : q.isBlocked op.uuid = true
  · -- The write joins one of its session, which is stuck.
    obtain ⟨w, member, same⟩ := List.any_eq_true.mp blocked
    have mine : Stuck op.uuid as := by simpa using of_decide_eq_true same ▸ h w member
    rw [handleWrite_of_blocked blocked, if_pos blocked, List.append_nil]
    exact List.forall_mem_append.mpr ⟨h, by simpa using mine⟩
  · have others : ∀ w ∈ q.retries, Stuck w.op.uuid (as ++ [.make b ⟨op, 0⟩]) := by
      intro w member
      refine (h w member).append fun same => ?_
      exact isBlocked_eq_false blocked w.op (List.mem_map_of_mem member) same.symm
    obtain ⟨q', tried, counted, -⟩ := q.attempt_eq b ⟨op, 0⟩
    rw [WriteQueue.handleWrite, if_neg blocked, if_neg blocked, tried]
    by_cases closes : (Attempt.make b ⟨op, 0⟩).closes = true
    · rw [if_pos closes]
      change ∀ w ∈ q'.retries, _
      rwa [counted.retries]
    · rw [if_neg closes]
      change ∀ w ∈ q'.retries ++ [_], _
      rw [counted.retries]
      have mine : Stuck op.uuid (as ++ [.make b ⟨op, 0⟩]) := stuck_of_open as closes
      exact List.forall_mem_append.mpr ⟨others, by simpa using mine⟩

theorem HeadsTried.work {q : WriteQueue} {as : List Attempt} (h : q.HeadsTried as) (b : Backend) :
    (q.work b).1.HeadsTried (as ++ q.workAttempts b) := by
  cases first : q.channel with
  | nil =>
    rw [work_of_nil first, workAttempts, first]
    simpa using h
  | cons m rest =>
    have taken : (q.taken rest).HeadsTried as := by rwa [HeadsTried, retries_taken]
    rw [work_of_cons first, workAttempts, first]
    cases m with
    | barrier t =>
      rw [List.append_nil]
      exact taken
    | write op =>
      have blocked : (q.taken rest).isBlocked op.uuid = q.isBlocked op.uuid := by
        rw [isBlocked, isBlocked, retries_taken]
      have handled := taken.handleWrite b op
      rwa [blocked] at handled

end WriteQueue

namespace Ledger

/-- The write with this number, among the accepted ones of its session, was tried. -/
def Tried (l : Ledger) (u : Uuid) (n : Nat) : Prop :=
  ∃ before a after, l.attempts = before ++ a :: after ∧ place u before = n ∧
    (ofSession u l.accepted)[n]? = some a.op

theorem Balanced.tried_iff {l : Ledger} (h : l.Balanced) {u : Uuid} {n : Nat} :
    l.Tried u n ↔ Reach u n l.attempts := by
  constructor
  · rintro ⟨before, a, after, split, number, this⟩
    have mine := (mem_ofSession.mp (List.mem_of_getElem? this)).2
    exact ⟨before, a, after, split, mine, number⟩
  · rintro ⟨before, a, after, split, rfl, rfl⟩
    obtain ⟨later, same⟩ := h.tried before a after split
    refine ⟨before, a, after, split, rfl, ?_⟩
    rw [same, place, List.getElem?_append_right (Nat.le_refl _), Nat.sub_self]
    rfl

end Ledger

end SessionGateway
