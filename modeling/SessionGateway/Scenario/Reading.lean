import SessionGateway.Plugin.Message
import SessionGateway.Request
import SessionGateway.Scenario.Naming
import SessionGateway.Settings.Basic
import SessionGateway.Token.Signed

/-! How scenarios are written. A scenario is a JSON document; this module reads the members of one,
and the things that scenarios speak of: times, lengths of time, principals, requests, records. A
member that is null counts as absent. What cannot be read is named. -/

namespace SessionGateway.Scenario

abbrev Reading := Except String

def need {α : Type} (what : String) : Option α → Reading α
  | some x => .ok x
  | none => .error what

def field? (v : Json) (name : String) : Option Json :=
  match v with
  | .obj ms =>
    match ms.lookup name with
    | some .null => none
    | found => found
  | _ => none

def field (v : Json) (name : String) : Reading Json :=
  need name (field? v name)

def textOf (what : String) (v : Json) : Reading String :=
  need what v.text?

def listOf (what : String) : Json → Reading (List Json)
  | .arr vs => .ok vs
  | _ => .error what

def intOf (what : String) : Json → Reading Int
  | .int n => .ok n
  | _ => .error what

def text (v : Json) (name : String) : Reading String := do
  textOf name (← field v name)

def text? (v : Json) (name : String) : Reading (Option String) :=
  (field? v name).mapM (textOf name)

def textOr (v : Json) (name value : String) : Reading String := do
  return (← text? v name).getD value

def items (v : Json) (name : String) : Reading (List Json) :=
  (field? v name).elim (.ok []) (listOf name)

def texts (v : Json) (name : String) : Reading (List String) := do
  (← items v name).mapM (textOf name)

def flag (v : Json) (name : String) (value : Bool) : Reading Bool :=
  match field? v name with
  | some (.bool b) => .ok b
  | some _ => .error name
  | none => .ok value

def count? (v : Json) (name : String) : Reading (Option Nat) :=
  (field? v name).mapM fun x => (intOf name x).map Int.toNat

def number (v : Json) (name : String) : Reading Int :=
  (field? v name).elim (.ok 0) (intOf name)

def bytesOf (what s : String) : Reading Bytes :=
  need what (Bytes.ofHex? s.toList)

def bytes (v : Json) (name : String) : Reading Bytes := do
  bytesOf name (← textOr v name "")

def timeOf : Json → Reading Instant
  | .int n => need "time" (Instant.ofParts? n 0)
  | .arr [.int seconds, .int nanos] =>
    need "time" (if nanos < 0 then none else Instant.ofTimestamp? seconds nanos.toNat)
  | .str "max" => .ok .latest
  | .str "min" => .ok .earliest
  | _ => .error "time"

def time (v : Json) (name : String) : Reading Instant :=
  (field? v name).elim (.ok .epoch) timeOf

def spanOf : Json → Reading Span
  | .int n => .ok (.ofSeconds n)
  | v => do return .ofMillis (← intOf "ms" (← field v "ms"))

def span (v : Json) (name : String) : Reading Span := do
  spanOf (← field v name)

def role (s : String) : Reading Role :=
  need "role" (Role.parse s).toOption

def grantOf : Json → Reading (String × Role)
  | .arr [.str resource, .str name] => do return (resource, ← role name)
  | _ => .error "grant"

def grants (v : Json) : Reading PermissionSet := do
  return .ofGrants (← (← items v "grants").mapM grantOf)

def checkOf : Json → Reading (Role × String)
  | .arr [.str name, .str resource] => do return (← role name, resource)
  | _ => .error "check"

def principalOf (v : Json) : Reading Principal := do
  let user ← text v "user"
  return {
    user
    longName := ← textOr v "long_name" user
    permissions := ← grants v
    roles := ← texts v "roles"
    createdAt := ← time v "created_at"
    lastLogin := ← (field? v "last_login").mapM timeOf }

def principal (v : Json) : Reading Principal := do
  principalOf (← field v "principal")

def seedOf (v : Json) : Reading Seed := do
  return {
    user := ← text v "user"
    longName := ← text? v "long_name"
    roles := ← texts v "roles"
    permissions := ← grants v }

def loginOf (v : Json) : Reading LoginRequest := do
  return {
    user := ← text v "user"
    secret := ← textOr v "secret" ""
    method := ← textOr v "method" "password" }

def eventOf (v : Json) : Reading DataEvent := do
  return {
    table := ← text v "table"
    operation := ← need "operation" (DataOperation.ofJson? (← field v "operation"))
    key := ← text? v "key" }

def uuid (v : Json) (name : String) : Reading Uuid := do
  need name (uuid? (← text v name))

def record (v : Json) : Reading SessionRecord := do
  match ← field v "record" with
  | .obj ms =>
    let ms ← ms.mapM fun (name, value) => do
      if name = "uuid" then
        return (name, (← need "uuid" (value.text?.bind uuid?)).toJson)
      else return (name, value)
    need "record" (SessionRecord.ofJson? (.obj ms))
  | _ => .error "record"

def owner (v : Json) (r : SessionRecord) : Reading Principal :=
  match field? v "owner" with
  | some (.str user) => .ok (.named user .epoch)
  | some p => principalOf p
  | none => .ok (.named r.user .epoch)

/-- The text before the last place where a token is to stand, and the number written there. -/
def tokenPlace? : List Char → Option (List Char × List Char)
  | [] => none
  | c :: cs =>
    match tokenPlace? cs with
    | some (before, digits) => some (c :: before, digits)
    | none =>
      match c, cs with
      | '@', 'S' :: rest => some ([], rest.takeWhile Char.isDigit)
      | _, _ => none

/-- A header's value; the last mark with the name of a session, and everything behind it, stand for
the session's token. -/
def headerValue (tokens : List String) (s : String) : String :=
  match tokenPlace? s.toList with
  | some (before, digits) =>
    match (Text.decimal? (.ofList digits)).bind fun n => tokens[n]? with
    | some token => .ofList before ++ token
    | none => s
  | none => s

def withHeaders (tokens : List String) (r : Request) : List Json → Reading Request
  | [] => .ok r
  | .arr [.str name, .str value] :: rest =>
    withHeaders tokens (r.withHeader name (headerValue tokens value)) rest
  | _ :: _ => .error "headers"

/-- A request; `ctor` names one of the short forms, of which that of GET has no body. -/
def requestOf (tokens : List String) (v : Json) : Reading Request := do
  let form ← text? v "ctor"
  let method ← textOr v "method" "GET"
  let body := (← textOr v "body" "").toUTF8.toList
  withHeaders tokens {
    method := .ofText (form.getD method)
    path := ← textOr v "path" ""
    query := ← text? v "query"
    body := if form = some "get" then [] else body
    remoteAddress := ← text? v "remote_addr"
    receivedAt := ← time v "received_at" } (← items v "headers")

def request (tokens : List String) (v : Json) : Reading Request := do
  requestOf tokens (← field v "request")

/-- The token of an issued session, a text as it is, or claims signed with their own secret or the
given one. -/
def tokenOf (tokens : List String) (secret : String) (v : Json) : Reading String :=
  match v with
  | .str s =>
    match s.toList with
    | '@' :: name => (sessionIndex? (.ofList name)).elim (.ok s) fun n => need "token" tokens[n]?
    | _ => .ok s
  | _ => do
    let claims : Claims := {
      sid := ← uuid v "sid"
      sub := ← text v "sub"
      iat := .ofInt (← number v "iat")
      exp := .ofInt (← number v "exp") }
    return SignedToken.issue (← textOr v "secret" secret).toUTF8.toList claims

def token (tokens : List String) (secret : String) (v : Json) : Reading String := do
  tokenOf tokens secret (← field v "token")

def allowList (v : Json) : Reading PluginSettings := do
  return { allowList := ← (field? v "allow_list").mapM fun names => do
    (← listOf "allow_list" names).mapM (textOf "allow_list") }

end SessionGateway.Scenario
