import SessionGateway.Proofs.Persistence.Tried

/-! Pending writes as a line for each session. The count that the first write of a line carries is
the number of its attempts, and those behind it were not tried yet. An attempt at the first write
keeps this, and takes something from what the attempts that are left add up to. -/

namespace SessionGateway

open WriteOp Attempt

namespace Attempt

/-- How often the write with this number among those of the session was tried. -/
def tries (u : Uuid) (n : Nat) (as : List Attempt) : Nat :=
  (List.range as.length).countP fun i => as[i]?.any (·.op.uuid = u) && place u (as.take i) = n

variable {u : Uuid} {n : Nat} {as : List Attempt}

theorem tries_concat (u : Uuid) (n : Nat) (as : List Attempt) (a : Attempt) :
    tries u n (as ++ [a]) = tries u n as + if a.op.uuid = u ∧ place u as = n then 1 else 0 := by
  have before : ∀ i ∈ List.range as.length,
      ((as ++ [a])[i]?.any (·.op.uuid = u) && decide (place u ((as ++ [a]).take i) = n)) =
        (as[i]?.any (·.op.uuid = u) && decide (place u (as.take i) = n)) := by
    intro i member
    have inside := List.mem_range.mp member
    rw [List.getElem?_append_left inside, List.take_append_of_le_length (Nat.le_of_lt inside)]
  rw [tries, List.length_append, List.length_singleton, List.range_succ, List.countP_append,
    List.countP_congr fun i member => by rw [before i member], ← tries]
  simp [List.countP_cons]

theorem tries_eq_zero (h : place u as < n) : tries u n as = 0 := by
  rw [tries, List.countP_eq_zero]
  intro i _ tried
  have split := place_append (as.take i) (as.drop i) u
  rw [List.take_append_drop] at split
  simp only [Bool.and_eq_true, decide_eq_true_eq] at tried
  omega

theorem tries_pos (h : Reach u n as) : 0 < tries u n as := by
  obtain ⟨before, a, after, rfl, mine, number⟩ := h
  rw [tries, List.countP_pos_iff]
  refine ⟨before.length, by simp, ?_⟩
  simp [mine, number]

theorem lt_of_not_closes {a : Attempt} (again : ¬ a.closes = true) :
    a.write.attempts + 1 < maxAttempts := by
  obtain ⟨w, reply⟩ := a
  cases reply with
  | done x => exact absurd rfl again
  | failed f =>
    cases f with
    | crash text => exact absurd rfl again
    | error e => simpa [closes] using again

theorem place_singleton_of_closes {a : Attempt} (closes : a.closes = true) :
    place a.op.uuid [a] = 1 := by
  rw [place, closed_singleton, if_pos closes, ofSession_cons, if_pos rfl]
  rfl

def again (a : Attempt) : PendingWrite :=
  { a.write with attempts := a.write.attempts + 1 }

def left (a : Attempt) : List PendingWrite :=
  if a.closes then [] else [a.again]

theorem uuid_of_mem_left {a : Attempt} {w : PendingWrite} (member : w ∈ a.left) :
    w.op.uuid = a.op.uuid := by
  unfold left at member
  split at member
  · cases member
  · obtain rfl := List.mem_singleton.mp member
    rfl

theorem few_of_mem_left {a : Attempt} {w : PendingWrite} (member : w ∈ a.left) :
    w.attempts < maxAttempts := by
  unfold left at member
  split at member
  · cases member
  · next again =>
    obtain rfl := List.mem_singleton.mp member
    exact lt_of_not_closes again

theorem pairwise_left (a : Attempt) (R : PendingWrite → PendingWrite → Prop) :
    a.left.Pairwise R := by
  unfold left
  split
  · exact .nil
  · exact List.pairwise_singleton R _

end Attempt

namespace PendingWrite

/-- How often the first write of the session was tried, by the count that it carries. -/
def headCount (u : Uuid) (ws : List PendingWrite) : Nat :=
  (ws.find? (·.op.uuid = u)).elim 0 (·.attempts)

/-- How many attempts are left, if every one of them fails. -/
def budget : List PendingWrite → Nat
  | [] => 0
  | w :: ws => maxAttempts - w.attempts + budget ws

/-- Attempts in a row on pending writes, each at the first of a session. -/
inductive Row : List PendingWrite → List Attempt → List PendingWrite → Prop
  | nil {ws : List PendingWrite} : Row ws [] ws
  | cons {front back ws : List PendingWrite} {a : Attempt} {as : List Attempt}
    (first : ∀ w ∈ front, w.op.uuid ≠ a.op.uuid) (rest : Row (front ++ (a.left ++ back)) as ws) :
    Row (front ++ a.write :: back) (a :: as) ws

structure InTurn (as : List Attempt) (ws : List PendingWrite) : Prop where
  counted : ∀ u, headCount u ws = tries u (place u as) as
  behind : ws.Pairwise fun w v => w.op.uuid = v.op.uuid → v.attempts = 0
  few : ∀ w ∈ ws, w.attempts < maxAttempts
  most : ∀ u n, tries u n as ≤ maxAttempts

variable {u : Uuid} {ws front back : List PendingWrite} {w : PendingWrite}

theorem headCount_append (others : ∀ w ∈ front, w.op.uuid ≠ u) :
    headCount u (front ++ back) = headCount u back := by
  have absent : front.find? (·.op.uuid = u) = none := by simpa using others
  rw [headCount, List.find?_append, absent]
  rfl

theorem headCount_cons_self (w : PendingWrite) (ws : List PendingWrite) :
    headCount w.op.uuid (w :: ws) = w.attempts := by
  simp [headCount]

theorem headCount_middle {middle : List PendingWrite} (others : ∀ w ∈ middle, w.op.uuid ≠ u) :
    headCount u (front ++ (middle ++ back)) = headCount u (front ++ back) := by
  have absent : middle.find? (·.op.uuid = u) = none := by simpa using others
  rw [headCount, List.find?_append, List.find?_append, absent, headCount, List.find?_append]
  rfl

theorem headCount_eq_zero (fresh : ∀ w ∈ ws, w.op.uuid = u → w.attempts = 0) :
    headCount u ws = 0 := by
  unfold headCount
  cases found : ws.find? (·.op.uuid = u) with
  | none => rfl
  | some w =>
    have mine : w.op.uuid = u := by simpa using List.find?_some found
    exact fresh w (List.mem_of_find?_eq_some found) mine

theorem InTurn.nil : InTurn [] [] :=
  ⟨fun _ => rfl, .nil, by simp, fun _ _ => Nat.zero_le _⟩

variable {as as' : List Attempt} {a : Attempt}

theorem InTurn.headCount_other (h : InTurn as (front ++ a.write :: back)) (other : a.op.uuid ≠ u) :
    headCount u (front ++ (a.left ++ back)) = tries u (place u (as ++ [a])) (as ++ [a]) := by
  have tried : ∀ w ∈ [a.write], w.op.uuid ≠ u :=
    fun w member => List.mem_singleton.mp member ▸ other
  have same : headCount u (front ++ (a.left ++ back)) = headCount u (front ++ a.write :: back) := by
    rw [headCount_middle fun w member => uuid_of_mem_left member ▸ other,
      ← List.singleton_append, headCount_middle tried]
  rw [same, h.counted, place_append, place_singleton_of_ne other, tries_concat,
    if_neg fun here => other here.1]
  rfl

section attempt

variable (h : InTurn as (front ++ a.write :: back)) (first : ∀ w ∈ front, w.op.uuid ≠ a.op.uuid)

include h first

theorem InTurn.tries_eq : tries a.op.uuid (place a.op.uuid as) as = a.write.attempts := by
  rw [← h.counted, headCount_append first]
  exact headCount_cons_self a.write back

theorem InTurn.headCount_own :
    headCount a.op.uuid (front ++ (a.left ++ back)) =
      tries a.op.uuid (place a.op.uuid (as ++ [a])) (as ++ [a]) := by
  rw [headCount_append first, place_append, tries_concat]
  by_cases closes : a.closes = true
  · have next : tries a.op.uuid (place a.op.uuid as + 1) as = 0 :=
      tries_eq_zero (Nat.lt_succ_self _)
    have fresh := (List.pairwise_cons.mp (List.pairwise_append.mp h.behind).2.1).1
    rw [left, if_pos closes, place_singleton_of_closes closes, next, if_neg (by omega)]
    exact headCount_eq_zero fun w member mine => fresh w member mine.symm
  · rw [left, if_neg closes, place_singleton_of_open closes, Nat.add_zero, h.tries_eq first,
      if_pos ⟨rfl, rfl⟩]
    exact headCount_cons_self a.again back

theorem InTurn.behind_attempt :
    (front ++ (a.left ++ back)).Pairwise fun w v => w.op.uuid = v.op.uuid → v.attempts = 0 := by
  obtain ⟨before, line, apart⟩ := List.pairwise_append.mp h.behind
  obtain ⟨fresh, after⟩ := List.pairwise_cons.mp line
  refine List.pairwise_append.mpr
    ⟨before, List.pairwise_append.mpr ⟨pairwise_left a _, after, ?_⟩, ?_⟩
  · intro w member v later same
    exact fresh v later (uuid_of_mem_left member ▸ same)
  · intro w earlier v member same
    rcases List.mem_append.mp member with mid | later
    · exact absurd (same.trans (uuid_of_mem_left mid)) (first w earlier)
    · exact apart w earlier v (List.mem_cons_of_mem _ later) same

theorem InTurn.attempt : InTurn (as ++ [a]) (front ++ (a.left ++ back)) := by
  obtain ⟨before, here, after⟩ :=
    (List.forall_mem_append.mp h.few).imp_right List.forall_mem_cons.mp
  refine ⟨fun u => ?_, h.behind_attempt first, ?_, fun u n => ?_⟩
  · by_cases same : a.op.uuid = u
    · exact same ▸ h.headCount_own first
    · exact h.headCount_other same
  · exact List.forall_mem_append.mpr
      ⟨before, List.forall_mem_append.mpr ⟨fun w => few_of_mem_left, after⟩⟩
  · rw [tries_concat]
    split
    · next now =>
      obtain ⟨rfl, rfl⟩ := now
      rw [h.tries_eq first]
      exact here
    · exact h.most u n

end attempt

theorem InTurn.join (h : InTurn as ws) (op : WriteOp) : InTurn as (ws ++ [⟨op, 0⟩]) := by
  refine ⟨fun u => ?_, ?_, ?_, h.most⟩
  · rw [← h.counted]
    unfold headCount
    rw [List.find?_append]
    cases ws.find? (·.op.uuid = u) with
    | some w => rfl
    | none =>
      by_cases mine : op.uuid = u <;> simp [mine]
  · refine List.pairwise_append.mpr ⟨h.behind, List.pairwise_singleton .., fun w _ v member _ => ?_⟩
    rw [List.mem_singleton.mp member]
  · refine List.forall_mem_append.mpr ⟨h.few, ?_⟩
    simp [maxAttempts]

theorem InTurn.row (h : InTurn as ws) {ws' : List PendingWrite} (row : Row ws as' ws') :
    InTurn (as ++ as') ws' := by
  induction row generalizing as with
  | nil => rwa [List.append_nil]
  | cons first _ ih =>
    have step := ih (h.attempt first)
    rwa [List.append_assoc] at step

theorem budget_append (ws ws' : List PendingWrite) :
    budget (ws ++ ws') = budget ws + budget ws' := by
  induction ws with
  | nil => exact (Nat.zero_add _).symm
  | cons w ws ih => rw [List.cons_append, budget, ih, budget, Nat.add_assoc]

theorem budget_left_lt {a : Attempt} (few : a.write.attempts < maxAttempts) :
    budget a.left < maxAttempts - a.write.attempts := by
  unfold left
  split
  · exact Nat.sub_pos_of_lt few
  · change maxAttempts - (a.write.attempts + 1) + 0 < _
    omega

theorem budget_row {ws' : List PendingWrite} (row : Row ws as ws')
    (few : ∀ w ∈ ws, w.attempts < maxAttempts) : budget ws' + as.length ≤ budget ws := by
  induction row with
  | nil => exact Nat.le_refl _
  | @cons front back ws a as first rest ih =>
    obtain ⟨before, here, after⟩ :=
      (List.forall_mem_append.mp few).imp_right List.forall_mem_cons.mp
    have spent := budget_left_lt here
    have later := ih <| List.forall_mem_append.mpr
      ⟨before, List.forall_mem_append.mpr ⟨fun w => few_of_mem_left, after⟩⟩
    simp only [budget_append, budget, List.length_cons] at later ⊢
    omega

theorem budget_le (ws : List PendingWrite) : budget ws ≤ maxAttempts * ws.length := by
  induction ws with
  | nil => exact Nat.le_refl 0
  | cons w ws ih =>
    rw [budget, List.length_cons, Nat.mul_succ]
    omega

theorem eq_nil_of_budget (few : ∀ w ∈ ws, w.attempts < maxAttempts) (spent : budget ws = 0) :
    ws = [] := by
  cases ws with
  | nil => rfl
  | cons w ws =>
    have here := few w List.mem_cons_self
    rw [budget] at spent
    omega

end PendingWrite

end SessionGateway
