import SessionGateway.Plugin.Loader
import SessionGateway.Scenario.Reading

/-! Modules that act by a script. A word with a colon and a text says how a call ends: it fails, is
not implemented, cannot reach its directory, or crashes; any other word lets it end well. -/

namespace SessionGateway.Scenario

def after? (word s : String) : Option String :=
  match Text.cutFirst? ':' s with
  | some (first, rest) => if first = word then some rest else none
  | none => none

def ending (s : String) : Outcome Unit :=
  if s = "panic_any" then .crash ⟨none⟩
  else
    match Text.cutFirst? ':' s with
    | some ("fail", message) => .error (.failed message)
    | some ("ni", message) => .error (.notImplemented message)
    | some ("io", message) => .error (.directory message)
    | some ("panic", message) => .crash ⟨some message⟩
    | some ("panic_str", message) => .crash ⟨some message⟩
    | _ => .ok ()

def auditor (source : String) (v : Json) : Reading Auditor := do
  let receive ← textOr v "receive" "ok"
  let send ← textOr v "send" "ok"
  let sendError ← textOr v "send_error" "ok"
  let login ← textOr v "login" "ok"
  return {
    source
    deliver := fun
      | .receive _ _ => ending receive
      | .send _ _ _ => ending send
      | .sendError _ _ _ _ => ending sendError
      | .login _ _ _ _ => ending login }

def verdict (s : String) (a : Access) : Except Crash Bool :=
  match Text.cutFirst? ':' s with
  | some ("role", name) => .ok (a.role.label = name)
  | some ("resource", name) => .ok (a.resource = name)
  | some ("user", name) => .ok (a.principal.user = name)
  | some ("path", start) => .ok (a.request.path.startsWith start)
  | _ =>
    if s = "allow" then .ok true
    else if s = "deny" then .ok false
    else
      match ending s with
      | .ok _ => .ok true
      | .error _ => .ok false
      | .crash c => .error c

def echoReport (p : Principal) (r : Request) : Json :=
  .obj [("query", .ofOption .str r.query), ("report", .str r.subPath), ("user", .str p.user)]

def response (s : String) (p : Principal) (r : Request) : Outcome Response :=
  match after? "status" s with
  | some status =>
    .ok {
      status := .ofNat ((Text.decimal? status).getD 0)
      contentType := "text/plain"
      body := [] }
  | none =>
    if s = "echo" then .ok (.ofText "text/plain" r.subPath)
    else if s = "body" then .ok { contentType := "application/octet-stream", body := r.body }
    else if s = "json" then .ok (.ofText "application/json" (echoReport p r).render)
    else (ending s).map fun _ => .ofText "text/plain" "acted"

def extension (source : String) (v : Json) : Reading Extension := do
  let claimed ← texts v "prefixes"
  let get ← textOr v "get" "echo"
  let put ← textOr v "put" "echo"
  let post ← textOr v "post" "echo"
  let getOnly ← flag v "get_only" false
  return {
    source
    claimed
    handle := fun verb p r =>
      match verb with
      | .get => response get p r
      | .put => if getOnly then .error (.notImplemented "PUT") else response put p r
      | .post => if getOnly then .error (.notImplemented "POST") else response post p r }

def authenticator (source : String) (v : Json) : Reading Authenticator := do
  let act ← textOr v "act" "ok"
  let user ← text? v "user"
  let secret ← text? v "secret"
  let method ← text? v "method"
  let seed ← (field? v "seed").mapM seedOf
  return {
    source
    recognize := fun login => (ending act).map fun _ =>
      if user.all (· = login.user) && secret.all (· = login.secret) &&
        method.all (· = login.method) then some (seed.getD { user := login.user })
      else none }

def contract (v : Json) : Reading Module := do
  let source ← text v "id"
  let stop ← textOr v "stop" "ok"
  return {
    source
    name := ← textOr v "name" source
    version := ← textOr v "version" "1.0.0"
    capabilities := .ofList ((← texts v "caps").filterMap fun c => (Capability.parse c).toOption)
    stop :=
      match ending stop with
      | .crash c => .error c
      | _ => .ok () }

/-- The entry point for a capability; without a script its calls end well. -/
def entryPoint (v : Json) (c : Capability) : Reading EntryPoint := do
  let source ← text v "id"
  let script := (field? v c.label).getD (.obj [])
  match c with
  | .audit => return .audit (← auditor source script)
  | .validator => return .validator { source, judge := verdict (script.text?.getD "allow") }
  | .extend => return .extend (← extension source script)
  | .auth => return .auth (← authenticator source script)
  | .dataEvent =>
    return .dataEvent { source, notify := fun _ => ending (script.text?.getD "ok") }

def staticModule (v : Json) : Reading StaticModule := do
  let scripted := Capability.all.filter fun c => (field? v c.label).isSome
  return { contract := ← contract v, entries := ← scripted.mapM (entryPoint v) }

end SessionGateway.Scenario
