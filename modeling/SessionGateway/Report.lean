import SessionGateway.Gateway.Basic
import SessionGateway.Report.Table

/-! Reports for operators: what a scan for plugins found, which sessions are stored, and how a
gateway is doing. A report is a table for people, or a JSON document. -/

namespace SessionGateway

inductive ReportFormat where
  | table
  | json
deriving DecidableEq

namespace ReportFormat

def label : ReportFormat → String
  | table => "table"
  | json => "json"

def parse? (s : String) : Option ReportFormat :=
  [table, json].find? (·.label = s)

end ReportFormat

namespace CapabilitySet

def labels (s : CapabilitySet) : List String :=
  s.toList.map Capability.label

def cell (s : CapabilitySet) : String :=
  match s.labels with
  | [] => "-"
  | names => ", ".intercalate names

end CapabilitySet

namespace Scan

def loadedTable (s : Scan) : Table where
  header := ["Id", "Name", "Version", "Registered", "Missing"]
  rows := s.descriptors.map fun d =>
    [d.id, d.contract.name, d.contract.version, d.registered.cell, d.missing.cell]

def skippedLine (number : Nat) (s : Skipped) : String :=
  let subject :=
    match s.capability with
    | some c => s!"{s.path} ({c.label})"
    | none => s.path
  s!"  {number}. {subject}: {s.reason}\n"

def skippedLines (s : Scan) : String :=
  if s.skipped.isEmpty then ""
  else "\nSkipped:\n" ++ .join ((s.skipped.zipIdx 1).map fun (skip, i) => skippedLine i skip)

/-- The JSON report, with the members of every object in alphabetical order. -/
def reportJson (s : Scan) : Json :=
  let texts (ts : List String) : Json := .arr (ts.map .str)
  let summary := s.registry.summary
  .obj [
    ("loaded", .arr (s.descriptors.map fun d => .obj [
      ("declared", texts d.contract.capabilities.labels), ("id", .str d.id),
      ("name", .str d.contract.name), ("path", .str d.path),
      ("registered", texts d.registered.labels), ("version", .str d.contract.version)])),
    ("skipped", .arr (s.skipped.map fun skip => .obj [
      ("capability", .ofOption Capability.toJson skip.capability), ("path", .str skip.path),
      ("reason", .str skip.reason)])),
    ("summary", .obj [
      ("extend", .arr (summary.extend.map fun (segment, id) => texts [segment, id])),
      ("validators", texts summary.validators)])]

def report (s : Scan) : ReportFormat → String
  | .json => s.reportJson.renderIndented
  | .table =>
    if s.descriptors.isEmpty && s.skipped.isEmpty then "No plugins found\n"
    else s!"Loaded Plugins\n{s.loadedTable.render}\n{s.skippedLines}"

end Scan

namespace SessionRecord

def reportJson (r : SessionRecord) : Json :=
  .obj [("created_at", r.createdAt.toJson), ("credential", .ofBytes r.credential),
    ("expires_at", r.expiresAt.toJson), ("invalidated", .bool r.invalidated),
    ("last_access", r.lastAccess.toJson), ("user", .str r.user), ("uuid", r.uuid.toJson)]

def table (records : List SessionRecord) : Table where
  header := ["Session", "User", "Created", "Last Access", "Expires"]
  rows := records.map fun r => [r.uuid.render, r.user, Rfc3339.renderShort r.createdAt,
    Rfc3339.renderShort r.lastAccess, Rfc3339.renderShort r.expiresAt]

def report (records : List SessionRecord) : ReportFormat → String
  | .json =>
    Json.renderIndented
      (.obj [("count", .int records.length), ("sessions", .arr (records.map reportJson))])
  | .table =>
    if records.isEmpty then "No active sessions\n"
    else s!"Active Sessions\n{(table records).render}\nSessions: {records.length}\n"

end SessionRecord

def GatewayHealth.report (h : GatewayHealth) : String :=
  let hook := if h.auditHook then "on" else "off"
  let persistence := if h.isDegraded then "degraded" else "healthy"
  s!"plugins: {h.pluginsLoaded} loaded, {h.pluginsSkipped} skipped | audit hook: {hook} | " ++
    s!"persistence: {persistence}"

end SessionGateway
