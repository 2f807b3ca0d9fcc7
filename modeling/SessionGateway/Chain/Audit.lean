import SessionGateway.Plugin.Registry
import SessionGateway.Settings.Basic

/-! Audit events go to every auditor. One that fails or crashes loses its own notification only. In
the background mode the failures are not reported to the caller. -/

namespace SessionGateway

inductive AuditMode where
  | inline
  | detached
deriving DecidableEq

/-- Failures are known only when the delivery is inline. -/
structure AuditReport where
  dispatched : Nat := 0
  failures : List (PluginId × String) := []
  excluded : Bool := false
deriving DecidableEq

structure AuditChain where
  auditors : List (PluginId × Auditor)
  excluded : List String
  mode : AuditMode

namespace AuditChain

def ofRegistry (r : Registry) (s : AuditSettings) : AuditChain where
  auditors := r.auditors.toList
  excluded := s.excludedEndpoints
  mode := if s.detached then .detached else .inline

def isExcluded (c : AuditChain) (request : Request) : Bool :=
  request.firstSegment.any c.excluded.contains

def failures (c : AuditChain) (event : AuditEvent) : List (PluginId × String) :=
  c.auditors.filterMap fun (id, a) => (a.deliver event).failure?.map fun reason => (id, reason)

def deliveries (c : AuditChain) (event : AuditEvent) : List PluginCall :=
  c.auditors.map fun (_, a) => .audit a.source event

/-- Without a background to deliver in, every delivery is inline. -/
def dispatch (c : AuditChain) (background : Bool) (event : AuditEvent) :
    AuditReport × List PluginCall :=
  if event.request?.any c.isExcluded then ({ excluded := true }, [])
  else
    let failures := if c.mode = .detached ∧ background then [] else c.failures event
    ({ dispatched := c.auditors.length, failures }, c.deliveries event)

end AuditChain

end SessionGateway
