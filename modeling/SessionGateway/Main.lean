import SessionGateway.CommandLine.Run
import SessionGateway.Storage.TreeText
import Std.Time.DateTime.Timestamp

/-! The program on this machine. A database is a directory with one file, which holds the tree of
the sessions as text. The files of a plugin directory are those that its file `index` names, one a
line; none of them is loaded, since modules are part of the program that they extend. -/

namespace SessionGateway.CommandLine

def fileError : IO.Error → FileError
  | .noFileOrDirectory .. => .notFound
  | .alreadyExists .. => .alreadyExists
  | e => .other (toString e)

def attempted {α : Type} (action : IO α) : IO (Except FileError α) := do
  try
    return .ok (← action)
  catch e =>
    return .error (fileError e)

def pathExists (path : String) : IO Bool := do
  return (← attempted (IO.FS.realPath path)).isOk

/-- Only a directory has something in it. -/
def isDirectory (path : String) : IO Bool :=
  pathExists (pathIn path ".")

def listing? (path : String) : IO (Option (List DirectoryEntry)) := do
  if ← isDirectory path then
    let index := (← attempted (IO.FS.readFile (pathIn path "index"))).toOption.getD ""
    let names := (Text.pieces '\n' index).filter (· ≠ "")
    some <$> names.mapM fun name => do
      let place := pathIn path name
      return { name, isFile := (← pathExists place) && !(← isDirectory place) }
  else return none

def treeFile (directory : String) : String :=
  pathIn directory s!"{SessionStore.treeName}.tree"

def openDatabase (directory : String) : IO (Except StorageError Database) := do
  match ← attempted (IO.FS.readFile (treeFile directory)) with
  | .error _ => return .ok (.empty .sled)
  | .ok text =>
    match Tree.parse? text with
    | some tree => return .ok ((Database.empty .sled).setTree SessionStore.treeName tree)
    | none => return .error (.backend s!"{treeFile directory} is damaged")

def saveDatabase (directory : String) (d : Database) : IO Unit :=
  IO.FS.writeFile (treeFile directory) (Tree.render (d.tree SessionStore.treeName))

def thisMachine : IO (Machine IO) := do
  let environment ← Settings.environment.all.mapM fun name => return (name, ← IO.getEnv name)
  let now ← Std.Time.Timestamp.now
  return {
    lookup := fun name => (environment.lookup name).join
    now := (Instant.ofNanos? now.toNanosecondsSinceUnixEpoch.val).getD .epoch
    readText := fun path => attempted (IO.FS.readFile path)
    entries? := listing?
    pathExists := pathExists
    makeDirectory := fun path => attempted (IO.FS.createDirAll path)
    openDatabase := openDatabase
    saveDatabase := saveDatabase
    openLibrary := fun path => .error (.load path "not a part of this program")
    print := fun text => do
      IO.print text
      (← IO.getStdout).flush
    complain := IO.eprint
    awaitStop := do
      discard (← IO.getStdin).getLine }

end SessionGateway.CommandLine

def main (arguments : List String) : IO UInt32 := do
  (← SessionGateway.CommandLine.thisMachine).run arguments
