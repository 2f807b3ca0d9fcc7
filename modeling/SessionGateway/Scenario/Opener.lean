import SessionGateway.Scenario.Script

/-! Scripted modules on a shelf, and what goes wrong when they are opened: a file that cannot be
opened, a contract that is missing or of another version, a capability that comes back as another,
and files that are listed although they do not exist. -/

namespace SessionGateway.Scenario

structure FileFault where
  openError : Option String
  contractError : Option String
  abi : Option Nat
  swaps : List (String × EntryPoint)
  isGhost : Bool

def swapsOf (v : Json) : Reading (List (String × EntryPoint)) :=
  match field? v "resolves_as" with
  | some (.obj ms) =>
    ms.mapM fun (name, other) => do
      let label ← textOf "resolves_as" other
      return (name, ← entryPoint v (← need "resolves_as" (Capability.parse label).toOption))
  | _ => .ok []

def fileFault (v : Json) : Reading FileFault := do
  return {
    openError := ← text? v "open_error"
    contractError := ← text? v "contract_error"
    abi := ← count? v "abi"
    swaps := ← swapsOf v
    isGhost := ← flag v "ghost" false }

namespace FileFault

def refusal? (f : FileFault) (path : String) : Option PluginError :=
  match f.openError, f.abi with
  | some message, _ => some (.load path message)
  | none, some found => some (.abiMismatch path (.ofNat found))
  | none, none => none

def handle (f : FileFault) (path : String) (h : ModuleHandle) : ModuleHandle where
  contract :=
    match f.contractError with
    | some message => .error (.missingContract path message)
    | none => h.contract
  resolve c :=
    match f.swaps.lookup c.label with
    | some entry => .ok entry
    | none => h.resolve c

end FileFault

/-- Faults by the paths of their files, each with the first text of its path; of two faults at one
path the last counts. -/
abbrev FaultTable := Std.ExtTreeMap ModulePath (String × FileFault)

def faultTable (specs : List Json) : Reading FaultTable :=
  specs.foldlM (fun table v => do
    let path := (← text v "id") ++ librarySuffix
    let key := ModulePath.ofText path
    return table.insert key ((table[key]?).elim path (·.1), ← fileFault v)) ∅

def shelfOf (specs : List Json) : Reading StaticModule.Shelf :=
  specs.foldlM (fun shelf v => do
    if ← flag v "ghost" false then return shelf
    else return shelf.add (← text v "id") (← staticModule v)) {}

/-- The modules of a scenario; those that do not exist are listed last. -/
def opener (v : Json) : Reading ModuleOpener := do
  let specs ← items v "modules"
  let unreadable ← text? v "unreadable"
  let faults ← faultTable specs
  let shelf ← shelfOf specs
  let ghosts := (faults.values.filter (·.2.isGhost)).map (·.1)
  return {
    candidates := fun _ =>
      match unreadable with
      | some message => .error (.directory message)
      | none => .ok (shelf.paths ++ ghosts)
    openFile := fun path =>
      match faults[ModulePath.ofText path]? with
      | none => shelf.opener.openFile path
      | some (_, fault) =>
        match fault.refusal? path with
        | some e => .error e
        | none => (shelf.opener.openFile path).map (fault.handle path) }

end SessionGateway.Scenario
