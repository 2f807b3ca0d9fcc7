import SessionGateway.Gateway.Basic
import SessionGateway.Scenario.Failure
import SessionGateway.Settings.Document

/-! What scenarios show of sessions, plugins, reports and health. -/

namespace SessionGateway

open Scenario

namespace Scenario

def nat (n : Nat) : Json := .int n

def strings (ss : List String) : Json := .arr (ss.map .str)

end Scenario

def Session.answer (s : Session) : Json :=
  match s.toRecord.toJson with
  | .obj ms => .obj (ms ++ [("principal", s.principal.toJson)])
  | v => v

def SweepReport.answer (r : SweepReport) : Json :=
  .arr [nat r.evictedSessions, nat r.evictedTombstones]

def SessionStats.answer (s : SessionStats) : Json :=
  .obj [("cached", nat s.cached), ("revoked", nat s.revoked)]

def PersistenceHealth.answer (h : PersistenceHealth) : Json :=
  .obj [("persistence_enabled", .bool h.enabled), ("store_degraded", .bool h.storeDegraded),
    ("queue_depth", nat h.queueDepth), ("queue_capacity", nat h.queueCapacity),
    ("pending_retries", nat h.pendingRetries), ("dropped_writes", nat h.droppedWrites),
    ("completed_writes", nat h.completedWrites), ("worker_restarts", nat h.workerRestarts),
    ("last_error", .ofOption .str h.lastError), ("degraded", .bool h.isDegraded)]

def GatewayHealth.answer (h : GatewayHealth) : Json :=
  .obj [("persistence", h.persistence.answer), ("sessions", h.sessions.answer),
    ("plugins_loaded", nat h.pluginsLoaded), ("plugins_skipped", nat h.pluginsSkipped),
    ("audit_hook", .bool h.auditHook), ("shutting_down", .bool h.shuttingDown),
    ("degraded", .bool h.isDegraded)]

def Settings.answer (s : Settings) : List (String × Json) :=
  [("config", s.toJson), ("ttl", .int s.session.ttl.wholeSeconds),
    ("grace", .int s.session.grace.wholeSeconds),
    ("sweep_interval", .word s.session.sweepIntervalSecs),
    ("drain_tick", .word s.session.drainTickSecs),
    ("lifetime", .int s.token.lifetime.wholeSeconds),
    ("development_secret", .bool s.token.usesDevelopmentSecret)]

def CapabilitySet.answer (s : CapabilitySet) : Json :=
  .arr (s.toList.map Capability.toJson)

def Descriptor.answer (d : Descriptor) : Json :=
  .obj [("id", .str d.id), ("name", .str d.contract.name), ("version", .str d.contract.version),
    ("declared", d.contract.capabilities.answer), ("registered", d.registered.answer),
    ("missing", d.missing.answer), ("path", .str d.path), ("module", .str d.contract.name)]

def Skipped.answer (s : Skipped) : Json :=
  .obj [("path", .str s.path), ("capability", .ofOption Capability.toJson s.capability),
    ("reason", .str s.reason)]

def Registry.answer (r : Registry) : Json :=
  let s := r.summary
  .obj [("modules", strings s.modules), ("audit", strings s.audit),
    ("validators", strings s.validators),
    ("extend", .arr (s.extend.map fun (segment, id) => strings [segment, id])),
    ("auth", strings s.auth), ("data_event", strings s.dataEvent),
    ("has_audit", .bool r.hasAudit), ("empty", .bool r.isEmpty)]

def Scan.answer (s : Scan) : List (String × Json) :=
  [("descriptors", .arr (s.descriptors.map Descriptor.answer)),
    ("skipped", .arr (s.skipped.map Skipped.answer)), ("summary", s.registry.answer)]

def AuditReport.answer (r : AuditReport) : Json :=
  .obj [("dispatched", nat r.dispatched),
    ("failures", .arr (r.failures.map fun (id, reason) => strings [id, reason])),
    ("excluded", .bool r.excluded)]

def Routed.answer : Routed → Json
  | .handled r =>
    .obj [("status", nat r.status.toNat), ("content_type", .str r.contentType),
      ("body", .str ((String.fromUTF8? ⟨r.body.toArray⟩).getD ""))]
  | .notImplemented => .str "not_implemented"
  | .denied => .str "denied"

def Outcome.answer (failed : PluginError → Json) : Outcome Routed → Json
  | .ok routed => routed.answer
  | .error e => failed e
  | .crash c => c.answer

def Recognized.answer (r : Recognized) : Json :=
  .obj [("module", .str r.module), ("user", .str r.seed.user), ("roles", strings r.seed.roles),
    ("long_name", .ofOption .str r.seed.longName), ("permissions", r.seed.permissions.toJson)]

end SessionGateway
