import SessionGateway.Plugin.Registry
import SessionGateway.Plugin.ModulePath
import SessionGateway.Settings.Basic

/-! The scan for modules. Each candidate file is opened, its contract read, its name checked against
the allow-list and each declared capability resolved; whatever fails is left out with a reason, and
the scan goes on. -/

namespace SessionGateway

structure ModuleHandle where
  contract : Except PluginError Module
  resolve : Capability → Except PluginError EntryPoint

/-- Finds candidate files in a directory, in the order of their paths, and opens them. -/
structure ModuleOpener where
  candidates : Option String → Except PluginError (List String)
  openFile : String → Except PluginError ModuleHandle

def librarySuffix : String := ".so"

/-- A module that is part of the program, with one entry point for each capability it exports. -/
structure StaticModule where
  contract : Module
  entries : List EntryPoint := []

namespace StaticModule

def handle (m : StaticModule) : ModuleHandle where
  contract := .ok m.contract
  resolve c :=
    match m.entries.find? (·.capability = c) with
    | some entry => .ok entry
    | none => .error (.missingCapability m.contract.name c)

/-- Modules under the names of files that do not exist; the directory plays no part. -/
structure Shelf where
  files : Std.ExtTreeMap ModulePath (String × StaticModule) := ∅

namespace Shelf

/-- A path that is there already keeps its text. -/
def add (s : Shelf) (id : String) (m : StaticModule) : Shelf :=
  let path := id ++ librarySuffix
  let key := ModulePath.ofText path
  ⟨s.files.insert key ((s.files[key]?).elim path (·.1), m)⟩

def paths (s : Shelf) : List String :=
  s.files.values.map (·.1)

def find? (s : Shelf) (path : String) : Option StaticModule :=
  (s.files[ModulePath.ofText path]?).map (·.2)

def opener (s : Shelf) : ModuleOpener where
  candidates _ := .ok s.paths
  openFile path :=
    match s.find? path with
    | some m => .ok m.handle
    | none => .error (.load path "no in-process module under this name")

end Shelf

end StaticModule

structure DirectoryEntry where
  name : String
  isFile : Bool

/-- The library files of a directory, by name. -/
def libraryFiles (entries : List DirectoryEntry) : List String :=
  ((entries.filter fun e => e.isFile && e.name.endsWith librarySuffix).map (·.name)).mergeSort
    fun a b => a ≤ b

def pathIn (directory name : String) : String :=
  if directory = "" ∨ directory.endsWith "/" then directory ++ name else s!"{directory}/{name}"

def ModuleOpener.ofDirectory (directory : String) (entries : List DirectoryEntry)
    (openFile : String → Except PluginError ModuleHandle) : ModuleOpener where
  candidates _ := .ok ((libraryFiles entries).map (pathIn directory))
  openFile := openFile

/-- A module that the scan took in. -/
structure Descriptor where
  id : PluginId
  path : String
  contract : Module
  registered : CapabilitySet := {}

/-- Declared, but not found. -/
def Descriptor.missing (d : Descriptor) : CapabilitySet :=
  d.contract.capabilities.diff d.registered

/-- A file that the scan left out, or a capability of one that it took in. -/
structure Skipped where
  path : String
  capability : Option Capability
  reason : String
deriving DecidableEq

structure Scan where
  registry : Registry := {}
  descriptors : List Descriptor := []
  skipped : List Skipped := []

namespace Scan

def skip (s : Scan) (path : String) (capability : Option Capability) (reason : String) : Scan :=
  { s with skipped := s.skipped ++ [{ path, capability, reason }] }

/-- What a module holds for a capability that it declares. -/
def resolved (handle : ModuleHandle) (c : Capability) : Except String EntryPoint :=
  match handle.resolve c with
  | .error e => .error e.message
  | .ok entry =>
    if entry.capability = c then .ok entry
    else .error s!"entry resolved as {entry.capability.label}"

def classify (path : String) (id : PluginId) (handle : ModuleHandle) :
    List Capability → Scan × CapabilitySet → Scan × CapabilitySet
  | [], state => state
  | c :: cs, (s, registered) =>
    classify path id handle cs <|
      match resolved handle c with
      | .ok entry => ({ s with registry := s.registry.addEntry id entry }, registered.insert c)
      | .error reason => (s.skip path (some c) reason, registered)

def accept (s : Scan) (path : String) (handle : ModuleHandle) (m : Module) : Scan :=
  let id := (ModulePath.stem? path).getD m.name
  let (s, registered) := classify path id handle m.capabilities.toList (s, {})
  { s with
    registry := s.registry.addModule id m
    descriptors := s.descriptors ++ [{ id, path, contract := m, registered }] }

def opened (opener : ModuleOpener) (allowed : String → Bool) (path : String) :
    Except String (ModuleHandle × Module) :=
  match opener.openFile path with
  | .error e => .error e.message
  | .ok handle =>
    match handle.contract with
    | .error e => .error e.message
    | .ok m =>
      if allowed m.name then .ok (handle, m) else .error s!"module '{m.name}' not in allow-list"

def visit (opener : ModuleOpener) (allowed : String → Bool) (s : Scan) (path : String) : Scan :=
  match opened opener allowed path with
  | .error reason => s.skip path none reason
  | .ok (handle, m) => s.accept path handle m

/-- Scans into a registry that may hold entries already; a directory that cannot be read holds no
modules. -/
def into (registry : Registry) (opener : ModuleOpener) (settings : PluginSettings)
    (directory : Option String) : Scan :=
  match opener.candidates directory with
  | .error _ => { registry }
  | .ok paths => paths.foldl (visit opener settings.allows) { registry }

def run (opener : ModuleOpener) (settings : PluginSettings) (directory : Option String) : Scan :=
  into {} opener settings directory

end Scan

end SessionGateway
