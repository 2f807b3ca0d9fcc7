import SessionGateway.Session.RecordBytes
import SessionGateway.Storage.Error

/-! Session records in a tree, each under the bytes of its identifier. A record that cannot be read
is an error when it is asked for and passed over when the records are visited. -/

namespace SessionGateway

structure SessionStore where
  tree : Tree := ∅

namespace SessionStore

def treeName : String := "sessions"

def read (bs : Bytes) : Except StorageError SessionRecord :=
  (SessionRecord.decode bs).mapError fun fault => .deserialization fault.message

def get (s : SessionStore) (u : Uuid) : Except StorageError (Option SessionRecord) :=
  match s.tree[u.bytes]? with
  | none => .ok none
  | some bs => (read bs).map some

def put (s : SessionStore) (r : SessionRecord) : SessionStore :=
  ⟨s.tree.insert r.uuid.bytes r.encode⟩

def delete (s : SessionStore) (u : Uuid) : SessionStore :=
  ⟨s.tree.erase u.bytes⟩

/-- The readable records that are not flagged, in the order of their keys. -/
def active (s : SessionStore) : List SessionRecord :=
  s.tree.toList.filterMap fun (_, bs) =>
    match read bs with
    | .ok r => if r.invalidated then none else some r
    | .error _ => none

/-- Shows records to a visitor, which says after each whether it wants another. -/
def visitAll {σ : Type} (visitor : σ → SessionRecord → σ × Bool) : σ → List SessionRecord → σ
  | state, [] => state
  | state, r :: rs =>
    match visitor state r with
    | (state, true) => visitAll visitor state rs
    | (state, false) => state

def visitActive {σ : Type} (s : SessionStore) (visitor : σ → SessionRecord → σ × Bool)
    (start : σ) : σ :=
  visitAll visitor start s.active

end SessionStore

end SessionGateway
