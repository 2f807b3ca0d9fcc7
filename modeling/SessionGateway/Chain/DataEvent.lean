import SessionGateway.Plugin.Registry

/-! Every listener hears of every change of data, whatever the others do. -/

namespace SessionGateway

def DataListener.accepts (l : DataListener) (event : DataEvent) : Bool :=
  (l.notify event).failure?.isNone

def Registry.publish (r : Registry) (event : DataEvent) : Nat × List PluginCall :=
  let listeners := r.listeners.toList
  ((listeners.filter fun (_, l) => l.accepts event).length,
    listeners.map fun (_, l) => .dataEvent l.source event)

end SessionGateway
