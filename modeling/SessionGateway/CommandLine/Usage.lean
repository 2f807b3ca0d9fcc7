import SessionGateway.CommandLine.Arguments

/-! The help texts, and what is said about faulty arguments. -/

namespace SessionGateway.CommandLine

def programName : String := "restgate"

def programVersion : String := "0.0.1"

def Switch.placeholder (s : Switch) : String :=
  .ofList ((s.name.toUpper.toList).map fun c => if c = '-' then '_' else c)

def Switch.signature (s : Switch) : String :=
  if s.takesValue then s!"--{s.name} <{s.placeholder}>" else s!"--{s.name}"

/-- Both forms; the long ones stand in one column. -/
def Switch.synopsis (s : Switch) : String :=
  match s.letter? with
  | some c => .ofList ['-', c, ',', ' '] ++ s.signature
  | none => "    " ++ s.signature

def Verb.summary : Verb → String
  | serve => "Start the gateway core and run until Ctrl-C / SIGTERM"
  | plugins => "Scan a plugin directory and show what would be registered"
  | sessions => "List active sessions held in the store"
  | version => "Show version information"
  | help => "Print this message or the help of the given subcommand(s)"

namespace Scope

def describe (scope : Scope) : Switch → String
  | .verbose => "Enable debug logging"
  | .logLevel => "Log level (error, warn, info, debug, trace)"
  | .config => "JSON config file; RESTGATE_* variables apply on top"
  | .dataDir =>
    if scope = command .sessions then s!"[default: {StorageSettings.path {}}]"
    else "Session store directory"
  | .pluginDir => if scope = command .plugins then "" else "Plugin directory to scan at startup"
  | .allow => "Comma-separated module allow-list"
  | .storage => "Storage backend (sled, memory)"
  | .user => "Only sessions of this user"
  | .format => "[default: table] [possible values: table, json]"
  | .help => "Print help"
  | .version => "Print version"

def summary : Scope → String
  | program => "restgate gateway core operator tool"
  | command v => v.summary

def usage : Scope → String
  | program => s!"{programName} [OPTIONS] <COMMAND>"
  | command .plugins =>
    s!"{programName} plugins [OPTIONS] {Switch.signature .pluginDir}"
  | command .help => s!"{programName} help [COMMAND]..."
  | command v => s!"{programName} {v.word} [OPTIONS]"

def titled (title : String) (entries : List (String × String)) : String :=
  let columns := (entries.map (·.1.length)).foldl max 0
  let lines := entries.map fun (name, text) => s!"  {Text.padTo columns name}  {text}\n"
  s!"\n{title}:\n" ++ .join lines

def help (scope : Scope) : String :=
  let head := s!"{scope.summary}\n\nUsage: {scope.usage}\n"
  let options := scope.switches.map fun s => (s.synopsis, scope.describe s)
  match scope with
  | program =>
    head ++ titled "Commands" (Verb.all.map fun v => (v.word, v.summary)) ++
      titled "Options" options
  | command .help =>
    head ++ titled "Arguments" [("[COMMAND]...", "Print help for the subcommand(s)")]
  | command _ => head ++ titled "Options" options

end Scope

namespace UsageError

def reason : UsageError → String
  | unknownOption text => s!"unexpected argument '{text}' found"
  | unexpected argument => s!"unexpected argument '{argument}' found"
  | missingValue s => s!"a value is required for '{s.signature}' but none was supplied"
  | unexpectedValue s value =>
    s!"unexpected value '{value}' for '{s.signature}' found; no more were expected"
  | badValue s value => s!"invalid value '{value}' for '{s.signature}'"
  | repeated s => s!"the argument '{s.signature}' cannot be used multiple times"
  | missingCommand => s!"'{programName}' requires a subcommand but one was not provided"
  | unknownCommand word => s!"unrecognized subcommand '{word}'"
  | missingOption s =>
    s!"the following required arguments were not provided:\n  {s.signature}"

def message (e : UsageError) : String :=
  s!"error: {e.reason}\n\nFor more information, try '--help'.\n"

end UsageError

end SessionGateway.CommandLine
