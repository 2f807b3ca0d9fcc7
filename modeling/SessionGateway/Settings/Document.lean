import SessionGateway.Settings.Basic
import SessionGateway.Json.Reader
import SessionGateway.Json.Record

/-! Settings as a JSON document. Sections and fields that are missing take their defaults. -/

namespace SessionGateway

open Json (Slot)

def Retention.toJson (r : Retention) : Json := .str r.label

def Retention.ofJson? (v : Json) : Option Retention :=
  v.label?.bind fun name => [Retention.hardDelete, .softInvalidate].find? (·.label = name)

def StorageKind.toJson (k : StorageKind) : Json := .str k.label

def StorageKind.ofJson? (v : Json) : Option StorageKind :=
  v.label?.bind fun name => [StorageKind.sled, .memory].find? (·.label = name)

def Json.word (n : UInt64) : Json := .int n.toNat

def Json.word? (v : Json) : Option UInt64 := (v.unsigned? 64).map UInt64.ofNat

namespace SessionSettings

def toJson (s : SessionSettings) : Json :=
  .obj [("ttl_secs", .word s.ttlSecs), ("retention", s.retention.toJson),
    ("sweep_interval_secs", .word s.sweepIntervalSecs),
    ("sweep_grace_secs", .word s.sweepGraceSecs), ("queue_capacity", .word s.queueCapacity),
    ("drain_tick_secs", .word s.drainTickSecs)]

def ofJson? (v : Json) : Option SessionSettings := do
  let [ttl, retention, interval, grace, capacity, tick] ← v.fields? ["ttl_secs", "retention",
    "sweep_interval_secs", "sweep_grace_secs", "queue_capacity", "drain_tick_secs"] | none
  let d : SessionSettings := {}
  some {
    ttlSecs := ← ttl.withDefault d.ttlSecs Json.word?
    retention := ← retention.withDefault d.retention Retention.ofJson?
    sweepIntervalSecs := ← interval.withDefault d.sweepIntervalSecs Json.word?
    sweepGraceSecs := ← grace.withDefault d.sweepGraceSecs Json.word?
    queueCapacity := ← capacity.withDefault d.queueCapacity Json.word?
    drainTickSecs := ← tick.withDefault d.drainTickSecs Json.word? }

end SessionSettings

namespace TokenSettings

def toJson (s : TokenSettings) : Json :=
  .obj [("secret", .str s.secret), ("lifetime_secs", .word s.lifetimeSecs)]

def ofJson? (v : Json) : Option TokenSettings := do
  let [secret, lifetime] ← v.fields? ["secret", "lifetime_secs"] | none
  let d : TokenSettings := {}
  some {
    secret := ← secret.withDefault d.secret Json.text?
    lifetimeSecs := ← lifetime.withDefault d.lifetimeSecs Json.word? }

end TokenSettings

/-- Null counts as a value that is not there. -/
def Json.nullable {α : Type} (read : Json → Option α) : Json → Option (Option α)
  | .null => some none
  | v => (read v).map some

namespace PluginSettings

def toJson (s : PluginSettings) : Json :=
  .obj [("directory", .ofOption .str s.directory),
    ("allow_list", .ofOption (fun names => .arr (names.map .str)) s.allowList)]

def ofJson? (v : Json) : Option PluginSettings := do
  let [directory, allowList] ← v.fields? ["directory", "allow_list"] | none
  some {
    directory := ← directory.withDefault none (Json.nullable Json.text?)
    allowList := ← allowList.withDefault none (Json.nullable (Json.list? Json.text?)) }

end PluginSettings

namespace StorageSettings

def toJson (s : StorageSettings) : Json :=
  .obj [("storage_type", s.kind.toJson), ("path", .str s.path)]

def ofJson? (v : Json) : Option StorageSettings := do
  let [kind, path] ← v.fields? ["storage_type", "path"] | none
  let d : StorageSettings := {}
  some {
    kind := ← kind.withDefault d.kind StorageKind.ofJson?
    path := ← path.withDefault d.path Json.text? }

end StorageSettings

namespace AuditSettings

def toJson (s : AuditSettings) : Json :=
  .obj [("excluded_endpoints", .arr (s.excludedEndpoints.map .str)), ("detached", .bool s.detached)]

def ofJson? (v : Json) : Option AuditSettings := do
  let [endpoints, detached] ← v.fields? ["excluded_endpoints", "detached"] | none
  let d : AuditSettings := {}
  some {
    excludedEndpoints := ← endpoints.withDefault d.excludedEndpoints (Json.list? Json.text?)
    detached := ← detached.withDefault d.detached Json.bool? }

end AuditSettings

namespace Settings

def toJson (s : Settings) : Json :=
  .obj [("session", s.session.toJson), ("token", s.token.toJson), ("plugins", s.plugins.toJson),
    ("storage", s.storage.toJson), ("audit", s.audit.toJson)]

def ofJson? (v : Json) : Option Settings := do
  let [session, token, plugins, storage, audit] ←
    v.fields? ["session", "token", "plugins", "storage", "audit"] | none
  some {
    session := ← session.withDefault {} SessionSettings.ofJson?
    token := ← token.withDefault {} TokenSettings.ofJson?
    plugins := ← plugins.withDefault {} PluginSettings.ofJson?
    storage := ← storage.withDefault {} StorageSettings.ofJson?
    audit := ← audit.withDefault {} AuditSettings.ofJson? }

def parse? (text : String) : Option Settings :=
  (Json.parse? text).bind ofJson?

def ofDocument (text : String) : Except SettingsError Settings :=
  match parse? text with
  | none => .error .malformed
  | some s => s.check.map fun _ => s

end Settings

end SessionGateway
