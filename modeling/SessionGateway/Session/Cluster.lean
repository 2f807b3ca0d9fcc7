import SessionGateway.Session.Manager

/-! Several managers over one store. Each node has its own cache and its own queue; what they share
is the store, and a clock for the timers of the workers. -/

namespace SessionGateway

/-- A message is `inHand` when a worker has taken it and not handled it yet. -/
structure Cluster where
  nodes : List SessionManager
  backend : Backend := {}
  elapsed : Nat := 0
  inHand : List (Nat × Message) := []

namespace Cluster

def start (settings : List SessionSettings) : Except Crash Cluster :=
  (settings.mapM SessionManager.start).map fun nodes => { nodes }

def setNode (c : Cluster) (n : Nat) (m : SessionManager) : Cluster :=
  { c with nodes := c.nodes.set n m }

def setWrites (c : Cluster) (n : Nat) (writes : WriteBehind) : Cluster :=
  { c with nodes := c.nodes.modify n fun m => { m with writes } }

def handle (c : Cluster) (n : Nat) (message : Message) : Cluster :=
  match c.nodes[n]? with
  | none => c
  | some m =>
    let (_, queue, backend) := m.writes.queue.handle c.backend message
    { c.setWrites n { m.writes with queue } with backend }

def handleAll (c : Cluster) : Cluster :=
  c.inHand.foldl (fun c (n, message) => c.handle n message) { c with inHand := [] }

/-- Waits until the worker of a node has seen everything in its queue. -/
def flush (c : Cluster) (n : Nat) : Bool × Cluster :=
  let c := c.handleAll
  match c.nodes[n]? with
  | none => (false, c)
  | some m =>
    let (done, writes, backend) := m.writes.flush c.elapsed c.backend
    (done, { c.setWrites n writes with backend })

def flushWorker (c : Cluster) (n : Nat) : Cluster :=
  if c.nodes[n]?.any (·.writes.worker ≠ .unspawned) then (c.flush n).2 else c

def flushAll (c : Cluster) : Cluster :=
  (List.range c.nodes.length).foldl flushWorker c

def runWorker (c : Cluster) (n : Nat) : Cluster :=
  match c.nodes[n]? with
  | none => c
  | some m =>
    let (writes, backend) := m.writes.runOnly c.elapsed c.backend
    { c.setWrites n writes with backend }

def elapse (c : Cluster) (millis : Nat) : Cluster :=
  (List.range c.nodes.length).foldl runWorker { c with elapsed := c.elapsed + millis }

def tick (c : Cluster) (n : Nat) : Cluster :=
  let c := c.flushAll
  ((c.elapse ((c.nodes[n]?.elim 0 (·.writes.period)) + 1)).flushAll)

/-- Takes the first message of a node whose worker has just started. -/
def takeFirst (c : Cluster) (n : Nat) : Cluster :=
  match c.nodes[n]? with
  | none => c
  | some m =>
    let writes := m.writes.wake c.elapsed
    match writes.worker, writes.queue.receive with
    | .ticking _, some (message, queue) =>
      { c.setWrites n { writes with queue } with inHand := c.inHand ++ [(n, message)] }
    | _, _ => c.setWrites n writes

/-- Whether this call was the one that spawned the node's worker, which then takes a message. -/
def spawn (c : Cluster) (n : Nat) : Bool × Cluster :=
  match c.nodes[n]? with
  | none => (false, c)
  | some m =>
    let (started, writes) := m.writes.spawn
    let c := c.setWrites n writes
    (started, if started then c.takeFirst n else c)

def spawnAll (c : Cluster) : Cluster :=
  { c with nodes := c.nodes.map fun m => { m with writes := m.writes.spawn.2 } }

end Cluster

end SessionGateway
