import SessionGateway.Proofs.Persistence.Attempt

/-! Attempts in a row. Each is at a write with no other of its session before it among the pending
ones, and it takes that write out or leaves all as they are. So the writes of one session are over
with in the order in which they stand. -/

namespace SessionGateway

theorem append_eq_append_cons {α : Type} {xs ys before after : List α} {x : α}
    (h : xs ++ ys = before ++ x :: after) :
    (∃ mid, xs = before ++ x :: mid ∧ after = mid ++ ys) ∨
      ∃ mid, before = xs ++ mid ∧ ys = mid ++ x :: after := by
  rcases List.append_eq_append_iff.mp h with ⟨mid, place, rest⟩ | ⟨mid, old, rest⟩
  · exact .inr ⟨mid, place, rest⟩
  · cases mid with
    | nil => exact .inr ⟨[], by simp [old], rest.symm⟩
    | cons y mid =>
      obtain ⟨rfl, rfl⟩ := List.cons.inj rest
      exact .inl ⟨mid, old, rfl⟩

def Message.op? : Message → Option WriteOp
  | write op => some op
  | barrier _ => none

namespace WriteOp

def ofSession (u : Uuid) (ops : List WriteOp) : List WriteOp :=
  ops.filter (·.uuid = u)

variable {u : Uuid} {ops ops' : List WriteOp}

@[simp] theorem ofSession_nil : ofSession u [] = [] := rfl

@[simp] theorem ofSession_append :
    ofSession u (ops ++ ops') = ofSession u ops ++ ofSession u ops' :=
  List.filter_append ..

theorem ofSession_cons (op : WriteOp) :
    ofSession u (op :: ops) = if op.uuid = u then op :: ofSession u ops else ofSession u ops := by
  simp [ofSession, List.filter_cons]

theorem mem_ofSession {op : WriteOp} : op ∈ ofSession u ops ↔ op ∈ ops ∧ op.uuid = u := by
  simp [ofSession]

theorem ofSession_eq_nil : ofSession u ops = [] ↔ ∀ op ∈ ops, op.uuid ≠ u := by
  simp [ofSession, List.filter_eq_nil_iff]

end WriteOp

structure Attempt where
  write : PendingWrite
  reply : Reply Unit

namespace Attempt

def op (a : Attempt) : WriteOp := a.write.op

def make (b : Backend) (w : PendingWrite) : Attempt := ⟨w, (w.op.apply b).1⟩

def succeeded (a : Attempt) : Bool :=
  match a.reply with
  | .done _ => true
  | .failed _ => false

def closes (a : Attempt) : Bool :=
  match a.reply with
  | .done _ => true
  | .failed (.crash _) => true
  | .failed (.error _) => maxAttempts ≤ a.write.attempts + 1

def loses (a : Attempt) : Bool := a.closes && !a.succeeded

theorem closes_of_succeeded {a : Attempt} (h : a.succeeded = true) : a.closes = true := by
  obtain ⟨w, reply⟩ := a
  cases reply with
  | done x => rfl
  | failed f => cases h

/-- The writes that these attempts were the last at. -/
def closed (as : List Attempt) : List WriteOp :=
  (as.filter closes).map op

/-- The writes that took effect, in the order in which they did. -/
def applied (as : List Attempt) : List WriteOp :=
  (as.filter succeeded).map op

def lost (as : List Attempt) : List WriteOp :=
  (as.filter loses).map op

variable (a : Attempt) (as as' : List Attempt)

@[simp] theorem closed_nil : closed [] = [] := rfl

@[simp] theorem closed_append : closed (as ++ as') = closed as ++ closed as' := by
  simp [closed]

@[simp] theorem applied_append : applied (as ++ as') = applied as ++ applied as' := by
  simp [applied]

@[simp] theorem lost_append : lost (as ++ as') = lost as ++ lost as' := by
  simp [lost]

/-- The number, among the writes of a session, of the one that is tried next. -/
def place (u : Uuid) (as : List Attempt) : Nat :=
  (WriteOp.ofSession u (closed as)).length

@[simp] theorem place_append (u : Uuid) : place u (as ++ as') = place u as + place u as' := by
  simp [place]

theorem place_pos {a : Attempt} (as : List Attempt) (done : a.succeeded = true) :
    0 < place a.op.uuid (a :: as) := by
  simp [place, closed, closes_of_succeeded done, WriteOp.ofSession_cons]

theorem closed_cons : closed (a :: as) = closed [a] ++ closed as :=
  closed_append [a] as

theorem closed_singleton : closed [a] = if a.closes then [a.op] else [] := by
  by_cases h : a.closes = true <;> simp [closed, h]

theorem lost_eq_nil {as : List Attempt} : lost as = [] ↔ ∀ a ∈ as, a.loses = false := by
  simp [lost]

theorem applied_sublist_closed : (applied as).Sublist (closed as) := by
  have both : as.filter succeeded = (as.filter closes).filter succeeded := by
    rw [List.filter_filter]
    refine List.filter_congr fun a _ => ?_
    by_cases h : a.succeeded = true
    · simp [h, closes_of_succeeded h]
    · simp [h]
  rw [applied, both]
  exact List.filter_sublist.map op

theorem length_closed : (closed as).length = (applied as).length + (lost as).length := by
  induction as with
  | nil => rfl
  | cons a as ih =>
    simp only [closed, applied, lost, List.length_map, List.filter_cons] at ih ⊢
    by_cases h : a.succeeded = true
    · have closes := closes_of_succeeded h
      simp [loses, h, closes, ih]
      omega
    · by_cases h' : a.closes = true <;> simp [loses, h, h', ih]
      omega

end Attempt

open WriteOp Attempt

/-- One attempt, as a step on the pending writes and the backend. It is at a write that is the first
of its session. -/
inductive Trial (ops : List WriteOp) (b : Backend) (a : Attempt) : List WriteOp → Backend → Prop
  | made {front back : List WriteOp} {b' : Backend} (at_ : ops = front ++ a.op :: back)
    (first : ∀ op ∈ front, op.uuid ≠ a.op.uuid) (made : a.op.apply b = (a.reply, b')) :
    Trial ops b a (if a.closes then front ++ back else ops) b'

namespace Trial

variable {ops ops' : List WriteOp} {b b' : Backend} {a : Attempt}

theorem mem (h : Trial ops b a ops' b') : a.op ∈ ops := by
  obtain ⟨rfl, -, -⟩ := h
  exact List.mem_append_right _ List.mem_cons_self

theorem sublist (h : Trial ops b a ops' b') : ops'.Sublist ops := by
  obtain ⟨rfl, -, -⟩ := h
  split
  · exact (List.sublist_cons_self _ _).append_left _
  · exact .refl _

theorem backend_eq (h : Trial ops b a ops' b') : b' = (a.op.apply b).2 := by
  obtain ⟨-, -, made⟩ := h
  rw [made]

theorem later (h : Trial ops b a ops' b') : b.Later b' :=
  h.backend_eq ▸ a.op.later_apply b

theorem store_of_succeeded (h : Trial ops b a ops' b') (done : a.succeeded = true) :
    b'.store = a.op.effect b.store := by
  obtain ⟨-, -, made⟩ := h
  obtain ⟨w, reply⟩ := a
  cases reply with
  | done x => exact store_of_apply_done made
  | failed f => cases done

theorem store (h : Trial ops b a ops' b') :
    b'.store = b.store ∨ b'.store = a.op.effect b.store := by
  by_cases done : a.succeeded = true
  · exact .inr (h.store_of_succeeded done)
  · obtain ⟨-, -, made⟩ := h
    obtain ⟨w, reply⟩ := a
    cases reply with
    | done x => exact absurd rfl done
    | failed f => exact (store_of_apply_failed made).imp_right And.left

theorem store_of_kept (h : Trial ops b a ops' b') (again : ¬ a.closes = true) (honest : b.Honest) :
    b'.store = b.store := by
  obtain ⟨-, -, made⟩ := h
  obtain ⟨w, reply⟩ := a
  cases reply with
  | done x => exact absurd rfl again
  | failed f =>
    cases f with
    | crash text => exact absurd rfl again
    | error e => exact (store_of_apply_failed made).resolve_right fun slip => honest e slip.2

theorem next (h : Trial ops b a ops' b') : ∃ later, ofSession a.op.uuid ops = a.op :: later := by
  obtain ⟨rfl, first, -⟩ := h
  rw [ofSession_append, ofSession_eq_nil.mpr first, ofSession_cons, if_pos rfl]
  exact ⟨_, rfl⟩

theorem ofSession_eq (h : Trial ops b a ops' b') (u : Uuid) :
    ofSession u ops = ofSession u (closed [a]) ++ ofSession u ops' := by
  obtain ⟨rfl, first, -⟩ := h
  rw [closed_singleton]
  split
  · by_cases same : a.op.uuid = u
    · subst same
      simp [ofSession_cons, ofSession_eq_nil.mpr first]
    · simp [ofSession_cons, same]
  · rfl

theorem length_eq (h : Trial ops b a ops' b') : ops.length = (closed [a]).length + ops'.length := by
  obtain ⟨rfl, -, -⟩ := h
  rw [closed_singleton]
  split
  · simp only [List.length_append, List.length_cons, List.length_nil]
    omega
  · simp

end Trial

inductive Trials : List WriteOp → Backend → List Attempt → List WriteOp → Backend → Prop
  | nil {ops : List WriteOp} {b : Backend} : Trials ops b [] ops b
  | cons {ops ops' ops'' : List WriteOp} {b b' b'' : Backend} {a : Attempt} {as : List Attempt}
    (trial : Trial ops b a ops' b') (rest : Trials ops' b' as ops'' b'') :
    Trials ops b (a :: as) ops'' b''

namespace Trials

variable {ops ops' ops'' : List WriteOp} {b b' b'' : Backend} {as as' : List Attempt}

theorem split (h : Trials ops b (as ++ as') ops'' b'') :
    ∃ ops' b', Trials ops b as ops' b' ∧ Trials ops' b' as' ops'' b'' := by
  induction as generalizing ops b with
  | nil => exact ⟨ops, b, .nil, h⟩
  | cons a as ih =>
    cases h with
    | cons trial rest =>
      obtain ⟨ops', b', first, second⟩ := ih rest
      exact ⟨ops', b', .cons trial first, second⟩

theorem sublist (h : Trials ops b as ops' b') : ops'.Sublist ops := by
  induction h with
  | nil => exact .refl _
  | cons trial _ ih => exact ih.trans trial.sublist

theorem mem (h : Trials ops b as ops' b') {a : Attempt} (made : a ∈ as) : a.op ∈ ops := by
  induction h with
  | nil => cases made
  | cons trial _ ih =>
    rcases List.mem_cons.mp made with rfl | later
    · exact trial.mem
    · exact trial.sublist.subset (ih later)

theorem later (h : Trials ops b as ops' b') : b.Later b' := by
  induction h with
  | nil => exact .refl _
  | cons trial _ ih => exact trial.later.trans ih

theorem store {I : SessionStore → Prop} (h : Trials ops b as ops' b')
    (keeps : ∀ op ∈ ops, ∀ s, I s → I (op.effect s)) (holds : I b.store) : I b'.store := by
  induction h with
  | nil => exact holds
  | cons trial _ ih =>
    refine ih (fun op member => keeps op (trial.sublist.subset member)) ?_
    rcases trial.store with same | changed
    · exact same ▸ holds
    · exact changed ▸ keeps _ trial.mem _ holds

theorem ofSession_eq (h : Trials ops b as ops' b') (u : Uuid) :
    ofSession u ops = ofSession u (closed as) ++ ofSession u ops' := by
  induction h with
  | nil => rfl
  | @cons _ _ _ _ _ _ _ as trial _ ih =>
    rw [trial.ofSession_eq, ih, closed_cons _ as, ofSession_append, List.append_assoc]

theorem length_eq (h : Trials ops b as ops' b') :
    ops.length = (closed as).length + ops'.length := by
  induction h with
  | nil => simp
  | @cons _ _ _ _ _ _ _ as trial _ ih =>
    rw [trial.length_eq, ih, closed_cons _ as, List.length_append, Nat.add_assoc]

theorem next {a : Attempt} (h : Trials ops b (as ++ a :: as') ops' b') :
    ∃ later, ofSession a.op.uuid ops = ofSession a.op.uuid (closed as) ++ a.op :: later := by
  obtain ⟨mid, c, before, after⟩ := h.split
  cases after with
  | cons trial _ =>
    obtain ⟨later, head⟩ := trial.next
    exact ⟨later, by rw [before.ofSession_eq, head]⟩

end Trials

end SessionGateway
