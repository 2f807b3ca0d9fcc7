import SessionGateway.Plugin.Capability

/-! How a call of plugin code ends: with a value, with an error, or in a crash that carries a text
if it was given one. -/

namespace SessionGateway

structure Crash where
  text : Option String
deriving DecidableEq

def Crash.reason (c : Crash) : String :=
  c.text.getD "non-string panic payload"

inductive PluginError where
  | load (path message : String)
  | missingContract (path message : String)
  | abiMismatch (path : String) (found : UInt32)
  | missingCapability (module : String) (capability : Capability)
  | notImplemented (what : String)
  | failed (message : String)
  | crashed (message : String)
  | directory (message : String)
deriving DecidableEq

def abiVersion : UInt32 := 1

namespace PluginError

def message : PluginError → String
  | load path message => s!"Failed to load module {path}: {message}"
  | missingContract path message =>
    s!"Module {path} does not export the loader contract: {message}"
  | abiMismatch path found =>
    let wanted := abiVersion.toNat
    let found := found.toNat
    s!"ABI version mismatch for {path}: expected {wanted}, found {found}"
  | missingCapability module capability =>
    let label := capability.label
    let symbol := capability.entrySymbol
    s!"Module '{module}' declares {label} but does not export {symbol}"
  | notImplemented what => s!"Not implemented: {what}"
  | failed message => s!"Plugin call failed: {message}"
  | crashed message => s!"Plugin panicked: {message}"
  | directory message => s!"Plugin directory error: {message}"

end PluginError

inductive Outcome (α : Type) where
  | ok (value : α)
  | error (e : PluginError)
  | crash (c : Crash)

def Outcome.map {α β : Type} (f : α → β) : Outcome α → Outcome β
  | ok value => ok (f value)
  | error e => error e
  | crash c => crash c

def Outcome.failure? {α : Type} : Outcome α → Option String
  | ok _ => none
  | error e => some e.message
  | crash c => some s!"panicked: {c.reason}"

end SessionGateway
