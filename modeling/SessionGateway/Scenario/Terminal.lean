import SessionGateway.CommandLine.Run
import SessionGateway.Scenario.Disk
import SessionGateway.Scenario.Reading

/-! The machine of a scenario for the command line: a disk, and a screen on which everything that a
command prints is kept. -/

namespace SessionGateway.Scenario

open CommandLine

structure Terminal where
  disk : Disk
  out : String := ""
  err : String := ""

namespace Terminal

def headerSize : Nat := 64

/-- No file of a scenario is a library. -/
def openLibrary (d : Disk) (path : String) : Except PluginError ModuleHandle :=
  let size := ((d.readText path).toOption.getD "").utf8ByteSize
  let reason := if size < headerSize then "file too short" else "invalid ELF header"
  .error (.load path s!"{path}: {reason}")

def entries? (d : Disk) (path : String) : Option (List DirectoryEntry) :=
  (d.entries? path).map fun names =>
    names.map fun name => { name, isFile := d.isFile (pathIn path name) }

def makeDirectory (path : String) (t : Terminal) : Except FileError Unit × Terminal :=
  match t.disk.makeDirectory path with
  | .ok disk => (.ok (), { t with disk })
  | .error e => (.error e, t)

/-- The machine stops a gateway as soon as it waits. Libraries are those of the disk at the start.
-/
def machine (d : Disk) (lookup : String → Option String) (now : Instant) :
    Machine (StateM Terminal) where
  lookup := lookup
  now := now
  readText path := return (← get).disk.readText path
  entries? path := return entries? (← get).disk path
  pathExists path := return ((← get).disk.find path).isOk
  makeDirectory path := modifyGet (makeDirectory path)
  openDatabase path := return (← get).disk.openDatabase path
  saveDatabase _ _ := return ()
  openLibrary := openLibrary d
  print text := modify fun t => { t with out := t.out ++ text }
  complain text := modify fun t => { t with err := t.err ++ text }
  awaitStop := return ()

end Terminal

def records (v : Json) : Reading (List SessionRecord) := do
  (← items v "records").mapM fun r => record (.obj [("record", r)])

def placeOf (name : String) : Place :=
  (Text.pieces '/' name).filter fun piece => !Route.isIdle piece

/-- A database keeps its values in one directory and the rest in two files. -/
def disk (v : Json) : Reading Disk := do
  let stored ← (field? v "records").mapM fun _ => records v
  let files ← (← items v "files").mapM fun f => do
    return (placeOf (← text f "name"), ← text f "content")
  let directories := (← texts v "dirs").map placeOf
  match stored with
  | none => return { files, directories }
  | some records => return {
      files := files ++ [(["data", "conf"], ""), (["data", "db"], "")]
      directories := directories ++ [["data", "blobs"]]
      sessions := some (records.foldl SessionStore.put {}) }

/-- Runs the program on the arguments of a scenario. What it says about faulty arguments is not
shown. -/
def commandLine (v : Json) (lookup : String → Option String) (now : Instant) :
    Reading Json := do
  let disk ← disk v
  let machine := Terminal.machine disk lookup now
  let (code, shown) := (machine.run ("--log-level" :: "error" :: (← texts v "args"))).run { disk }
  let complaint := if code = 2 then [] else [("stderr", Json.str shown.err)]
  return .obj ([("code", .int code.toNat), ("stdout", .str shown.out)] ++ complaint)

end SessionGateway.Scenario
