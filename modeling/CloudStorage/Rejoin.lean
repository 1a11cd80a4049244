import CloudStorage.Cluster
import CloudStorage.Group

/-!
# Secondaries that die and come back

The replicas of a group with the messages of the cluster, the commands that the primary
handles, and processes that end and are started again. A start is taken apart: `initialize`
reads the server's own files, then the lines of its dead-server log one after another, and
truncates that log after it has seen its end. Until then no other process can reach it.
-/

namespace CloudStorage
open DelimitedText

/-- What the process of a storage server is doing. -/
inductive Life where
  | down
  /-- In `crashRecoveryFunction`, with the first `k` lines of the dead-server log handled. -/
  | recovering (s : Server) (k : Nat)
  /-- The end of the dead-server log was read. -/
  | recovered (s : Server)
  | up

def Life.isUp : Life → Bool
  | .up => true
  | _ => false

/-- The globals of a process that initializes are in `life`, those of one that runs in
`cluster`. -/
structure ReplicaGroup where
  cluster : Cluster
  life : Address → Life

inductive GroupEvent where
  /-- A thread that exchanges heartbeats or status messages takes a step. -/
  | network (e : ClusterEvent)
  /-- The primary handles a command on a connection that last answered `msg`. -/
  | command (time : Nat) (msg command : Str)
  | die (info : ServerInfo)
  | start (info : ServerInfo) (result : Nat)
  /-- The next `getline` of `crashRecoveryFunction`. -/
  | recover (info : ServerInfo)
  | finish (info : ServerInfo) (result : Nat)

/-- `initialize` up to the first `getline` of `crashRecoveryFunction`. -/
def beginRecovery (path : Str) (result : Nat) (n : Node) : Option Node :=
  (loadAndReplay path n).map (fun n =>
    let n := checkpointIfFull path result n
    { n with disk := createFile (deadServerLogPath path) n.disk })

/-- `main` from the truncation of the dead-server log on. -/
def endRecovery (path : Str) (servers : Int → List ServerInfo) (result : Nat) (n : Node) : Node :=
  let n := checkpointIfFull path result
    { n with disk := truncateFile (deadServerLogPath path) n.disk }
  { n with server := { n.server with currentlyInitializing := false, servers := servers } }

/-- How the next connections end to the secondaries that a server list has alive: a process
that does not run refuses them. -/
def connections (life : Address → Life) (list : List ServerInfo) : List Outcome :=
  (list.filter (fun it => it.isPrimary = false ∧ it.isDead = false)).map
    (fun it => if (life it.address).isUp then .connected else .refused)

namespace ReplicaGroup

def primaryList (p : Address) (s : ReplicaGroup) : List ServerInfo :=
  (s.cluster.replica p).server.serverList

/-- The storage servers as a command at the primary finds them. -/
def world (p : Address) (time : Nat) (s : ReplicaGroup) : World where
  server := fun a => (s.cluster.replica a).server
  disk := s.cluster.disk
  time := time
  outcomes := connections s.life (s.primaryList p)

def setWorld (w : World) (s : ReplicaGroup) : ReplicaGroup :=
  { s with cluster := { s.cluster with
      replica := fun a => ⟨w.server a, (s.cluster.replica a).waiting⟩
      disk := w.disk } }

def setLife (a : Address) (life : Life) (s : ReplicaGroup) : ReplicaGroup :=
  { s with life := assign s.life a life }

def setDisk (d : Disk) (s : ReplicaGroup) : ReplicaGroup :=
  { s with cluster := { s.cluster with disk := d } }

/-- The process of an event runs. Servers are not disabled here, and a start is no single
event. -/
def takesPart (s : ReplicaGroup) : ClusterEvent → Bool
  | .sendHeartbeat info | .awaitStatus info | .receiveStatus info _ => (s.life info.address).isUp
  | .recvHeartbeat _ _ | .checkHeartbeat _ _ => true
  | .disable _ | .enable _ _ | .restart _ _ => false

def network (config : Configuration) (g : Int) (e : ClusterEvent) (s : ReplicaGroup) :
    Option ReplicaGroup :=
  if s.takesPart e then
    (Cluster.next config g s.cluster e).map (fun c => { s with cluster := c })
  else none

def command (p : Address) (time : Nat) (msg command : Str) (s : ReplicaGroup) :
    Option ReplicaGroup :=
  if (s.life p).isUp then
    (serveCommand 2 p msg command (s.world p time)).map (fun (w, _) => s.setWorld w)
  else none

def die (a : Address) (s : ReplicaGroup) : ReplicaGroup := s.setLife a .down

def start (info : ServerInfo) (result : Nat) (s : ReplicaGroup) : Option ReplicaGroup :=
  match s.life info.address with
  | .down =>
    let server := startServer info.replicaGroup info
    (beginRecovery server.diskFilePath result ⟨server, s.cluster.disk⟩).map
      (fun n => (s.setDisk n.disk).setLife info.address (.recovering n.server 0))
  | _ => none

def recover (a : Address) (s : ReplicaGroup) : Option ReplicaGroup :=
  match s.life a with
  | .recovering server k =>
    match (getlines '\n' (readFile (deadServerLogPath server.diskFilePath) s.cluster.disk))[k]? with
    | some line =>
      (replayLine ⟨server, s.cluster.disk⟩ line).map
        (fun n => (s.setDisk n.disk).setLife a (.recovering n.server (k + 1)))
    | none => some (s.setLife a (.recovered server))
  | _ => none

def finish (config : Configuration) (info : ServerInfo) (result : Nat) (s : ReplicaGroup) :
    Option ReplicaGroup :=
  match s.life info.address with
  | .recovered server =>
    let n := endRecovery server.diskFilePath config.servers result ⟨server, s.cluster.disk⟩
    some { cluster := { s.cluster.setReplica info.address ⟨n.server, false⟩ with disk := n.disk }
           life := assign s.life info.address .up }
  | _ => none

/-- What a server of the group does, or nothing for others. -/
def ofMember (config : Configuration) (g : Int) (info : ServerInfo) (s : Option ReplicaGroup) :
    Option ReplicaGroup :=
  if info ∈ config.servers g then s else none

def next (config : Configuration) (g : Int) (p : Address) (s : ReplicaGroup) :
    GroupEvent → Option ReplicaGroup
  | .network e => s.network config g e
  | .command time msg command => s.command p time msg command
  | .die info => ofMember config g info (some (s.die info.address))
  | .start info result => ofMember config g info (s.start info result)
  | .recover info => ofMember config g info (s.recover info.address)
  | .finish info result => ofMember config g info (s.finish config info result)

end ReplicaGroup

end CloudStorage
