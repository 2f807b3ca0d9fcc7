import SessionGateway.Plugin.Registry

/-! Stopping the modules at the end. The gate lets one call through; a module that crashes does not
keep the others from being stopped. -/

namespace SessionGateway

structure StopGate where
  modules : List (PluginId × Module)
  stopped : Bool := false

namespace StopGate

def ofRegistry (r : Registry) : StopGate where
  modules := r.modules.toList

/-- Whether this call was the one that stopped the modules. -/
def stopAll (g : StopGate) : (Bool × List PluginCall) × StopGate :=
  if g.stopped then ((false, []), g)
  else ((true, g.modules.map fun (_, m) => .stop m.source), { g with stopped := true })

@[simp] theorem stopAll_stopped (g : StopGate) : g.stopAll.2.stopped = true := by
  unfold stopAll; split <;> simp_all

end StopGate

/-- The listener that waits for a shutdown to be requested and then stops the modules. -/
inductive ListenerState where
  | absent
  | waiting
  | ended
deriving DecidableEq

/-- A shutdown request, the gate, and the latest listener. -/
structure Shutdown where
  gate : StopGate
  triggered : Bool := false
  listener : ListenerState := .absent

namespace Shutdown

def settle (s : Shutdown) : List PluginCall × Shutdown :=
  if s.listener = .waiting ∧ s.triggered then
    let ((_, calls), gate) := s.gate.stopAll
    (calls, { s with gate, listener := .ended })
  else ([], s)

def listen (s : Shutdown) : List PluginCall × Shutdown :=
  settle { s with listener := .waiting }

def trigger (s : Shutdown) : Shutdown :=
  { s with triggered := true }

def stopAll (s : Shutdown) : (Bool × List PluginCall) × Shutdown :=
  let (answer, gate) := s.gate.stopAll
  (answer, { s with gate })

end Shutdown

end SessionGateway
