import SessionGateway.Plugin.Loader
import SessionGateway.Storage.Database
import SessionGateway.Storage.Error

/-! What commands need of the machine that they run on. -/

namespace SessionGateway.CommandLine

structure Machine (m : Type → Type) where
  lookup : String → Option String
  now : Instant
  readText : String → m (Except FileError String)
  entries? : String → m (Option (List DirectoryEntry))
  pathExists : String → m Bool
  makeDirectory : String → m (Except FileError Unit)
  openDatabase : String → m (Except StorageError Database)
  saveDatabase : String → Database → m Unit
  openLibrary : String → Except PluginError ModuleHandle
  print : String → m Unit
  complain : String → m Unit
  awaitStop : m Unit

end SessionGateway.CommandLine
