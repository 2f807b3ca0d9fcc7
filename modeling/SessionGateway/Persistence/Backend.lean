import SessionGateway.Persistence.SessionStore
import SessionGateway.Text.Quoted

/-! A session store whose calls may fail. Which call fails, and how, is decided by the number of
calls of its kind before it; a call that fails changes no record unless it slips. -/

namespace SessionGateway

inductive StoreCall where
  | get
  | put
  | delete
  | range
  | flush
deriving DecidableEq

inductive StoreFault where
  | error (e : StorageError)
  | crash (text : String)
deriving DecidableEq

inductive Reply (α : Type) where
  | done (value : α)
  | failed (fault : StoreFault)

def Reply.ofExcept {α : Type} : Except StorageError α → Reply α
  | .ok x => .done x
  | .error e => .failed (.error e)

/-- What is known of a crash on the pool where store calls run; the task's number is left out. -/
def poolCrash (text : String) : String :=
  s!"task # panicked with message {Text.quote text}"

def StoreFault.reason : StoreFault → String
  | error e => e.message
  | crash text => poolCrash text

/-- A store, and what becomes of calls on it: by the number of those `made` before, a call of a kind
ends in a fault, and if it slips it takes effect all the same. -/
structure Backend where
  store : SessionStore := {}
  made : StoreCall → Nat := fun _ => 0
  faults : StoreCall → Nat → Option StoreFault := fun _ _ => none
  slips : StoreCall → Nat → Bool := fun _ _ => false

namespace Backend

instance : Inhabited Backend := ⟨{}⟩

def count (b : Backend) (c : StoreCall) : Backend :=
  { b with made := fun d => if d = c then b.made d + 1 else b.made d }

def fault? (b : Backend) (c : StoreCall) : Option StoreFault :=
  b.faults c (b.made c)

def get (b : Backend) (u : Uuid) : Reply (Option SessionRecord) × Backend :=
  match b.fault? .get with
  | some f => (.failed f, b.count .get)
  | none => (.ofExcept (b.store.get u), b.count .get)

def write (b : Backend) (c : StoreCall) (change : SessionStore → SessionStore) :
    Reply Unit × Backend :=
  match b.fault? c with
  | some f =>
    (.failed f,
      { b.count c with store := if b.slips c (b.made c) then change b.store else b.store })
  | none => (.done (), { b.count c with store := change b.store })

def put (b : Backend) (r : SessionRecord) : Reply Unit × Backend :=
  b.write .put (·.put r)

def delete (b : Backend) (u : Uuid) : Reply Unit × Backend :=
  b.write .delete (·.delete u)

def range (b : Backend) : Reply (List SessionRecord) × Backend :=
  match b.fault? .range with
  | some f => (.failed f, b.count .range)
  | none => (.done b.store.active, b.count .range)

def flush (b : Backend) : Reply Unit × Backend :=
  match b.fault? .flush with
  | some f => (.failed f, b.count .flush)
  | none => (.done (), b.count .flush)

/-- From now on the next `times` calls of the kind end in the fault, or all of them; without a fault
none does. -/
def schedule (b : Backend) (c : StoreCall) (fault : Option StoreFault) (times : Option Nat) :
    Backend :=
  { b with faults := fun d n =>
      if d = c then
        if times.all fun k => n < b.made c + k then fault else none
      else b.faults d n }

end Backend

end SessionGateway
