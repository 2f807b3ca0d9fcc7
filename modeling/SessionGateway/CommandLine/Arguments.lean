import SessionGateway.Report
import SessionGateway.Text.Pieces

/-! The arguments of the program. They are read from left to right: options of the program, a
command, options of the command. The first fault ends the reading, and so does a request for help.
-/

namespace SessionGateway.CommandLine

inductive Verb where
  | serve
  | plugins
  | sessions
  | version
  | help
deriving DecidableEq

namespace Verb

def all : List Verb := [serve, plugins, sessions, version, help]

def word : Verb → String
  | serve => "serve"
  | plugins => "plugins"
  | sessions => "sessions"
  | version => "version"
  | help => "help"

def ofWord? (w : String) : Option Verb :=
  all.find? (·.word = w)

end Verb

inductive Switch where
  | verbose
  | logLevel
  | config
  | dataDir
  | pluginDir
  | allow
  | storage
  | user
  | format
  | help
  | version
deriving DecidableEq

namespace Switch

def name : Switch → String
  | verbose => "verbose"
  | logLevel => "log-level"
  | config => "config"
  | dataDir => "data-dir"
  | pluginDir => "plugin-dir"
  | allow => "allow"
  | storage => "storage"
  | user => "user"
  | format => "format"
  | help => "help"
  | version => "version"

def letter? : Switch → Option Char
  | verbose => some 'v'
  | config => some 'c'
  | user => some 'u'
  | format => some 'f'
  | help => some 'h'
  | version => some 'V'
  | logLevel | dataDir | pluginDir | allow | storage => none

def takesValue : Switch → Bool
  | verbose | help | version => false
  | logLevel | config | dataDir | pluginDir | allow | storage | user | format => true

def logLevels : List String := ["error", "warn", "info", "debug", "trace"]

/-- Paths are not empty; levels are told from one another regardless of case. -/
def accepts : Switch → String → Bool
  | logLevel, value => logLevels.contains value.toLower
  | config, value | dataDir, value | pluginDir, value => value ≠ ""
  | storage, value => (StorageKind.parse value).isOk
  | format, value => (ReportFormat.parse? value).isSome
  | verbose, _ | allow, _ | user, _ | help, _ | version, _ => true

end Switch

inductive Scope where
  | program
  | command (v : Verb)
deriving DecidableEq

def Scope.switches : Scope → List Switch
  | program => [.verbose, .logLevel, .help, .version]
  | command .serve =>
    [.config, .verbose, .dataDir, .logLevel, .pluginDir, .allow, .storage, .help]
  | command .plugins => [.pluginDir, .verbose, .allow, .logLevel, .format, .help]
  | command .sessions => [.dataDir, .verbose, .logLevel, .user, .format, .help]
  | command .version => [.verbose, .logLevel, .help]
  | command .help => []

inductive UsageError where
  | unknownOption (text : String)
  | unexpected (argument : String)
  | missingValue (s : Switch)
  | unexpectedValue (s : Switch) (value : String)
  | badValue (s : Switch) (value : String)
  | repeated (s : Switch)
  | missingCommand
  | unknownCommand (word : String)
  | missingOption (s : Switch)
deriving DecidableEq

inductive Halt where
  | fault (e : UsageError)
  | helpWanted (scope : Scope)
  | versionWanted
deriving DecidableEq

/-- The options that were given so far, the latest first, and one whose value comes next. -/
structure Given where
  values : List (Switch × String) := []
  pending : Option Switch := none

namespace Given

def value? (g : Given) (s : Switch) : Option String :=
  g.values.lookup s

/-- An option is given once, with a value that it accepts; a flag has an empty one. -/
def give (g : Given) (s : Switch) (value : String) : Except Halt Given :=
  if !s.accepts value then .error (.fault (.badValue s value))
  else if (g.value? s).isSome then .error (.fault (.repeated s))
  else .ok { values := (s, value) :: g.values }

end Given

def isOption (argument : String) : Bool :=
  argument.startsWith "-" && argument ≠ "-"

namespace Scope

def raise (scope : Scope) (g : Given) : Switch → Except Halt Given
  | .help => .error (.helpWanted scope)
  | .version => .error .versionWanted
  | s => g.give s ""

/-- Reads an option by its name, which may be followed by an equals sign and a value. -/
def readName (scope : Scope) (g : Given) (text : String) : Except Halt Given :=
  let (name, value?) := (Text.cutFirst? '=' text).elim (text, none) fun (n, v) => (n, some v)
  match scope.switches.find? (·.name = name) with
  | none => .error (.fault (.unknownOption s!"--{name}"))
  | some s =>
    match s.takesValue, value? with
    | true, some value => g.give s value
    | true, none => .ok { g with pending := some s }
    | false, none => scope.raise g s
    | false, some value => .error (.fault (.unexpectedValue s value))

/-- Reads options by their letters. What follows the letter of an option with a value is the value,
without an equals sign before it. -/
def readLetters (scope : Scope) : List Char → Given → Except Halt Given
  | [], g => .ok g
  | c :: rest, g =>
    match scope.switches.find? (·.letter? = some c) with
    | none => .error (.fault (.unknownOption (.ofList ['-', c])))
    | some s =>
      if s.takesValue then
        match rest with
        | [] => .ok { g with pending := some s }
        | '=' :: value => g.give s (.ofList value)
        | value => g.give s (.ofList value)
      else do scope.readLetters rest (← scope.raise g s)

def readOption (scope : Scope) (g : Given) (argument : String) : Except Halt Given :=
  match argument.toList with
  | '-' :: '-' :: text => scope.readName g (.ofList text)
  | _ :: letters => scope.readLetters letters g
  | [] => .ok g

/-- Reads options up to the first word that is none, and gives that word and what follows it. Two
dashes say that no option follows. -/
def scan (scope : Scope) :
    List String → Given → Except Halt (Given × Option (String × List String))
  | [], g =>
    match g.pending with
    | some s => .error (.fault (.missingValue s))
    | none => .ok (g, none)
  | argument :: rest, g =>
    match g.pending with
    | some s =>
      if isOption argument then .error (.fault (.missingValue s))
      else do scope.scan rest (← g.give s argument)
    | none =>
      if argument = "--" then
        match rest with
        | [] => .ok (g, none)
        | extra :: _ => .error (.fault (.unexpected extra))
      else if isOption argument then do scope.scan rest (← scope.readOption g argument)
      else .ok (g, some (argument, rest))

end Scope

structure ServeOptions where
  config : Option String := none
  dataDir : Option String := none
  pluginDir : Option String := none
  allow : Option String := none
  storage : Option StorageKind := none
deriving DecidableEq

inductive Command where
  | serve (o : ServeOptions)
  | plugins (directory : String) (allow : Option String) (format : ReportFormat)
  | sessions (directory : String) (user : Option String) (format : ReportFormat)
  | version
deriving DecidableEq

namespace Given

def format (g : Given) : ReportFormat :=
  ((g.value? .format).bind ReportFormat.parse?).getD .table

def command (g : Given) : Verb → Except Halt Command
  | .serve => .ok (.serve {
      config := g.value? .config
      dataDir := g.value? .dataDir
      pluginDir := g.value? .pluginDir
      allow := g.value? .allow
      storage := (g.value? .storage).bind fun s => (StorageKind.parse s).toOption })
  | .plugins =>
    match g.value? .pluginDir with
    | some directory => .ok (.plugins directory (g.value? .allow) g.format)
    | none => .error (.fault (.missingOption .pluginDir))
  | .sessions =>
    let directory := (g.value? .dataDir).getD (StorageSettings.path {})
    .ok (.sessions directory (g.value? .user) g.format)
  | .version => .ok .version
  | .help => .error (.helpWanted .program)

end Given

def helpScope : List String → Except Halt Scope
  | [] => .ok .program
  | [word] =>
    match Verb.ofWord? word with
    | some v => .ok (.command v)
    | none => .error (.fault (.unknownCommand word))
  | _ :: word :: _ => .error (.fault (.unknownCommand word))

def parse (arguments : List String) : Except Halt Command := do
  match ← Scope.program.scan arguments {} with
  | (_, none) => throw (.fault .missingCommand)
  | (_, some (word, rest)) =>
    match Verb.ofWord? word with
    | none => throw (.fault (.unknownCommand word))
    | some .help => throw (.helpWanted (← helpScope rest))
    | some verb =>
      match ← (Scope.command verb).scan rest {} with
      | (g, none) => g.command verb
      | (_, some (extra, _)) => throw (.fault (.unexpected extra))

end SessionGateway.CommandLine
