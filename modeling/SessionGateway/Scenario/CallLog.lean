import SessionGateway.Plugin.EntryPoint
import SessionGateway.Scenario.Reading

/-! The log of the calls that scripted modules receive: one line a call. Modules that leave some of
their methods to the defaults log nothing for those. Of two modules with one name the last counts.
-/

namespace SessionGateway.Scenario

structure CallLog where
  receiveOnly : List String := []
  getOnly : List String := []
  timed : Bool := true

namespace CallLog

def ofScenario (v : Json) (timed : Bool) : Reading CallLog := do
  (← items v "modules").foldlM (fun log m => do
    if ← flag m "ghost" false then return log
    let id ← text m "id"
    let hears := (field? m "audit").bind Json.text? = some "receive_only"
    let reads := ((field? m "extend").bind (field? · "get_only")).bind Json.bool? = some true
    return { log with
      receiveOnly := log.receiveOnly.filter (· ≠ id) ++ if hears then [id] else []
      getOnly := log.getOnly.filter (· ≠ id) ++ if reads then [id] else [] }) { timed }

def elapsed (log : CallLog) (micros : Nat) : String :=
  if log.timed then s!" {micros}us" else ""

def auditLine (log : CallLog) : AuditEvent → String
  | .receive p r => s!"receive {p.user} {r.method.text} {r.path}"
  | .send micros p r =>
    let time := log.elapsed micros
    s!"send{time} {p.user} {r.path}"
  | .sendError micros p r error =>
    let time := log.elapsed micros
    s!"send_error{time} {p.user} {r.path} {error}"
  | .login method status session user =>
    let session := session.elim "-" Uuid.render
    s!"login {method} {status.label} {session} {user}"

def verbLabel : Verb → String
  | .get => "get"
  | .put => "put"
  | .post => "post"

def isReceive : AuditEvent → Bool
  | .receive _ _ => true
  | _ => false

def line? (log : CallLog) : PluginCall → Option String
  | .audit source event =>
    if source ∈ log.receiveOnly ∧ ¬ isReceive event then none
    else
      let line := log.auditLine event
      some s!"{source} {line}"
  | .validate source a =>
    some s!"{source} validate {a.principal.user} {a.role.label} {a.resource} {a.request.path}"
  | .handle source verb p r =>
    if source ∈ log.getOnly ∧ verb ≠ .get then none
    else
      let verb := verbLabel verb
      some s!"{source} {verb} {p.user} {r.path}"
  | .authenticate source login => some s!"{source} auth {login.user} {login.method}"
  | .dataEvent source e =>
    let key := e.key.getD "-"
    some s!"{source} event {e.table} {e.operation.label} {key}"
  | .stop source => some s!"{source} stop"

def lines (log : CallLog) (calls : List PluginCall) : List String :=
  calls.filterMap log.line?

end CallLog

end SessionGateway.Scenario
