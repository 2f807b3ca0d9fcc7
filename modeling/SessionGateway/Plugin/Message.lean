import SessionGateway.Identity.Principal
import SessionGateway.Text.Quoted

/-! What is handed to plugins and what they answer: logins, responses of extensions, and changes of
data. -/

namespace SessionGateway

open Json (Slot)

inductive LoginStatus where
  | success
  | failure
  | logout
deriving DecidableEq

namespace LoginStatus

def label : LoginStatus → String
  | success => "success"
  | failure => "failure"
  | logout => "logout"

def toJson (s : LoginStatus) : Json := .str s.label

def ofJson? (v : Json) : Option LoginStatus :=
  v.label?.bind fun name => [success, failure, logout].find? (·.label = name)

end LoginStatus

structure LoginRequest where
  user : String
  secret : String
  method : String := "password"
deriving DecidableEq

namespace LoginRequest

/-- For diagnostics; the secret is not shown. -/
def describe (r : LoginRequest) : String :=
  let user := Text.quote r.user
  let secret := Text.quote "<redacted>"
  let method := Text.quote r.method
  s!"LoginRequest \x7b user: {user}, secret: {secret}, method: {method} \x7d"

def toJson (r : LoginRequest) : Json :=
  .obj [("user", .str r.user), ("secret", .str r.secret), ("method", .str r.method)]

def ofJson? (v : Json) : Option LoginRequest := do
  let [user, secret, method] ← v.fields? ["user", "secret", "method"] | none
  some {
    user := ← user.required Json.text?
    secret := ← secret.required Json.text?
    method := ← method.required Json.text? }

end LoginRequest

structure Response where
  status : UInt16 := 200
  contentType : String
  body : List UInt8
deriving DecidableEq

namespace Response

def ofText (contentType text : String) : Response :=
  { contentType, body := text.toUTF8.toList }

def toJson (r : Response) : Json :=
  .obj [("status", .int r.status.toNat), ("content_type", .str r.contentType),
    ("body", .ofBytes r.body)]

def ofJson? (v : Json) : Option Response := do
  let [status, contentType, body] ← v.fields? ["status", "content_type", "body"] | none
  some {
    status := ← status.required fun v => (v.unsigned? 16).map UInt16.ofNat
    contentType := ← contentType.required Json.text?
    body := ← body.required Json.bytes? }

end Response

inductive DataOperation where
  | insert
  | update
  | delete
deriving DecidableEq

namespace DataOperation

def label : DataOperation → String
  | insert => "insert"
  | update => "update"
  | delete => "delete"

def toJson (o : DataOperation) : Json := .str o.label

def ofJson? (v : Json) : Option DataOperation :=
  v.label?.bind fun name => [insert, update, delete].find? (·.label = name)

end DataOperation

structure DataEvent where
  table : String
  operation : DataOperation
  key : Option String := none
  occurredAt : Instant := .epoch
deriving DecidableEq

namespace DataEvent

def toJson (e : DataEvent) : Json :=
  .obj [("table", .str e.table), ("operation", e.operation.toJson),
    ("key", .ofOption .str e.key), ("occurred_at", e.occurredAt.toJson)]

def ofJson? (v : Json) : Option DataEvent := do
  let [table, operation, key, occurredAt] ← v.fields? ["table", "operation", "key",
    "occurred_at"] | none
  some {
    table := ← table.required Json.text?
    operation := ← operation.required DataOperation.ofJson?
    key := ← key.optional Json.text?
    occurredAt := ← occurredAt.required Instant.ofJson? }

end DataEvent

end SessionGateway
