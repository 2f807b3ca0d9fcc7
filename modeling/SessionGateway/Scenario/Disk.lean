import SessionGateway.FileError
import SessionGateway.Persistence.SessionStore
import SessionGateway.Storage.Database
import SessionGateway.Storage.Error
import SessionGateway.Text.Pieces

/-! The disk of a scenario: a working directory with files, directories and perhaps a database of
sessions. A path is followed piece by piece; every piece but the last has to lead to a directory,
also if two dots come next. -/

namespace SessionGateway.Scenario

/-- Names below the working directory. A place outside of it starts with two dots or a slash. -/
abbrev Place := List String

structure Disk where
  files : List (Place × String) := []
  directories : List Place := []
  sessions : Option SessionStore := none

/-- Where a path starts, and its pieces. -/
structure Route where
  start : Place
  pieces : List String

namespace Route

def home : String := "$DIR"

def root : Place := ["/"]

/-- Bytes in the name of a file, and bytes in a path. -/
def longestName : Nat := 255
def longestPath : Nat := 4095

def ofText (path : String) : Except FileError Route :=
  if path = "" then .error .notFound
  else if path.toList.contains '\x00' then .error .zeroInPath
  else if longestPath < path.utf8ByteSize then .error .nameTooLong
  else
    match Text.pieces '/' path with
    | [] => .error .notFound
    | first :: rest =>
      if first = "" then .ok ⟨root, rest⟩
      else if first = home then .ok ⟨[], rest⟩
      else .ok ⟨[], first :: rest⟩

def isIdle (piece : String) : Bool :=
  piece = "" || piece = "."

/-- The route without its last piece, without the last two, and so on. -/
def shorter (r : Route) : List Route :=
  let names := r.pieces.filter fun piece => !isIdle piece
  (List.range names.length).reverse.map fun n => { r with pieces := names.take n }

end Route

namespace Disk

def above (p : Place) : Place :=
  if p = Route.root then p
  else if p.all (· = "..") then p ++ [".."]
  else p.dropLast

def below (directory path : Place) : Bool :=
  directory.isPrefixOf path && directory ≠ path

def file? (d : Disk) (p : Place) : Option String :=
  d.files.lookup p

/-- The directories above the working directory are there as well. -/
def isDirectory (d : Disk) (p : Place) : Bool :=
  p = Route.root || p.all (· = "..") || d.directories.any (p.isPrefixOf ·) ||
    d.files.any (below p ·.1)

def contains (d : Disk) (p : Place) : Bool :=
  (d.file? p).isSome || d.isDirectory p

def step (d : Disk) (p : Place) (piece : String) : Except FileError Place :=
  if !d.isDirectory p then .error .notADirectory
  else if Route.isIdle piece then .ok p
  else if piece = ".." then .ok (above p)
  else if Route.longestName < piece.utf8ByteSize then .error .nameTooLong
  else if d.contains (p ++ [piece]) then .ok (p ++ [piece])
  else .error .notFound

def follow (d : Disk) (r : Route) : Except FileError Place :=
  r.pieces.foldlM d.step r.start

def find (d : Disk) (path : String) : Except FileError Place := do
  d.follow (← Route.ofText path)

def entries? (d : Disk) (path : String) : Option (List String) := do
  let p ← (d.find path).toOption
  if d.isDirectory p then
    let children := (d.directories ++ d.files.map (·.1)).filterMap fun inner =>
      if below p inner then inner[p.length]? else none
    some (children.eraseDups.filter fun name => name ≠ ".." && name ≠ "/")
  else none

def isFile (d : Disk) (path : String) : Bool :=
  match d.find path with
  | .ok p => (d.file? p).isSome
  | .error _ => false

def readText (d : Disk) (path : String) : Except FileError String :=
  match d.find path with
  | .error e => .error e
  | .ok p =>
    match d.file? p with
    | some text => .ok text
    | none => .error .isADirectory

def make (d : Disk) (r : Route) : Except FileError Disk :=
  match r.pieces.reverse.dropWhile (· = "") with
  | [] => .error .alreadyExists
  | last :: before =>
    match d.follow { r with pieces := before.reverse } with
    | .error e => .error e
    | .ok p =>
      match d.step p last with
      | .ok _ => .error .alreadyExists
      | .error e =>
        if e = .notFound then .ok { d with directories := d.directories ++ [p ++ [last]] }
        else .error e

def leadsToDirectory (d : Disk) (r : Route) : Bool :=
  match d.follow r with
  | .ok p => d.isDirectory p
  | .error _ => false

/-- Creates a directory, and those of the shorter routes if it has no place yet. -/
def makeAlong (d : Disk) : List Route → Except FileError Disk
  | [] => .error .notFound
  | next :: rest =>
    match d.make next with
    | .ok d => .ok d
    | .error e =>
      if d.leadsToDirectory next then .ok d
      else if e = .notFound then
        match makeAlong d rest with
        | .error e => .error e
        | .ok d =>
          match d.make next with
          | .ok d => .ok d
          | .error e => if d.leadsToDirectory next then .ok d else .error e
      else .error e

/-- There is nothing to create for an empty path. -/
def makeDirectory (d : Disk) (path : String) : Except FileError Disk := do
  if path = "" then
    return d
  let r ← Route.ofText path
  d.makeAlong (r :: r.shorter)

/-- The database in a directory; there is one in `data` alone. -/
def openDatabase (d : Disk) (path : String) : Except StorageError Database :=
  match d.find path with
  | .error e => .error (.backend s!"IO error: {e.message}")
  | .ok p =>
    if (d.file? p).isSome then
      .error (.backend s!"IO error: {FileError.notADirectory.message}")
    else
      match d.sessions with
      | some store =>
        .ok (if p = ["data"] then (Database.empty .sled).setTree SessionStore.treeName store.tree
          else .empty .sled)
      | none => .ok (.empty .sled)

end Disk

end SessionGateway.Scenario
