import CloudStorage.Configuration
import CloudStorage.Lib.Runs
import CloudStorage.Storage

/-!
# The master and the replicas of a group

The threads that exchange heartbeats and status messages. A message is in flight from when
it is sent until a thread reads it, and any message in flight may be the next one read; a
message that goes to a process that is down waits for the process to come back.
-/

namespace CloudStorage

/-- Where a storage server receives status messages. -/
def ServerInfo.statusAddress (info : ServerInfo) : Address := (info.ip, info.udpPort2)

/-- A storage server, and whether its status thread waits in `recvfrom`. -/
structure Replica where
  server : Server
  waiting : Bool

/-- `heartbeats` and `statuses` hold what is in flight, in the order it was sent. -/
structure Cluster where
  master : Master
  replica : Address → Replica
  disk : Disk
  heartbeats : List Str
  statuses : Address → List Str

inductive ClusterEvent where
  /-- One turn of the loop of `sendHeartbeat`. -/
  | sendHeartbeat (info : ServerInfo)
  | recvHeartbeat (i now : Nat)
  /-- One turn of the loop of `checkHeartbeats`. -/
  | checkHeartbeat (now : Nat) (key : Str)
  /-- The status thread enters `recvfrom`. -/
  | awaitStatus (info : ServerInfo)
  | receiveStatus (info : ServerInfo) (i : Nat)
  | disable (info : ServerInfo)
  | enable (info : ServerInfo) (result : Nat)
  /-- The process ends and is started again. -/
  | restart (info : ServerInfo) (result : Nat)

namespace Cluster

def setReplica (a : Address) (r : Replica) (c : Cluster) : Cluster :=
  { c with replica := assign c.replica a r }

/-- The status messages in flight once the master sent some. -/
def send (out : List Datagram) (statuses : Address → List Str) (a : Address) : List Str :=
  statuses a ++ (out.filter (fun d => (d.ip, d.udpPort) = a)).map Datagram.text

/-- One turn of `sendHeartbeat`, which sends nothing while the server is disabled. -/
def sendHeartbeat (a : Address) (c : Cluster) : Option Cluster :=
  let s := (c.replica a).server
  if s.enabled then
    some { c with heartbeats := c.heartbeats ++ [heartbeatMessage s.replicaGroup s.myInfo.tcpPort] }
  else none

def recvHeartbeat (i now : Nat) (c : Cluster) : Option Cluster := do
  let message ← c.heartbeats[i]?
  let (master, out) ← CloudStorage.recvHeartbeat now message c.master
  return { c with
    master := master
    heartbeats := c.heartbeats.eraseIdx i
    statuses := send out c.statuses }

def checkHeartbeat (now : Nat) (key : Str) (c : Cluster) : Option Cluster :=
  (checkHeartbeats now [key] c.master).map
    (fun (master, out) => { c with master := master, statuses := send out c.statuses })

/-- `receiveStatus` looks at `enabled` before it waits for a message, not after. -/
def awaitStatus (a : Address) (c : Cluster) : Option Cluster :=
  if (c.replica a).server.enabled then
    some (c.setReplica a { c.replica a with waiting := true })
  else none

def receiveStatus (info : ServerInfo) (i : Nat) (c : Cluster) : Option Cluster :=
  if (c.replica info.address).waiting then do
    let message ← (c.statuses info.statusAddress)[i]?
    let server ← CloudStorage.receiveStatus message (c.replica info.address).server
    return { c.setReplica info.address ⟨server, false⟩ with
      statuses := assign c.statuses info.statusAddress
        ((c.statuses info.statusAddress).eraseIdx i) }
  else none

/-- `DISABLE` of the admin console. -/
def disable (a : Address) (c : Cluster) : Option Cluster :=
  let r := c.replica a
  if r.server.enabled then
    some (c.setReplica a { r with server := { r.server with enabled := false } })
  else none

/-- `ENABLE` of the admin console, which initializes again from the files. -/
def enable (a : Address) (result : Nat) (c : Cluster) : Option Cluster :=
  let r := c.replica a
  if r.server.enabled = false then
    let s := { r.server with enabled := true, currentlyInitializing := true }
    (initializeFrom s.diskFilePath result ⟨s, c.disk⟩).map (fun n =>
      { c.setReplica a { r with server := { n.server with currentlyInitializing := false } } with
        disk := n.disk })
  else none

def restart (config : Configuration) (info : ServerInfo) (result : Nat) (c : Cluster) :
    Option Cluster :=
  (startProcess info.replicaGroup info config.servers result c.disk).map (fun n =>
    { c.setReplica info.address ⟨n.server, false⟩ with disk := n.disk })

/-- What a server of the group does, or nothing for others. -/
def ofMember (config : Configuration) (g : Int) (info : ServerInfo) (c : Option Cluster) :
    Option Cluster :=
  if info ∈ config.servers g then c else none

def next (config : Configuration) (g : Int) (c : Cluster) : ClusterEvent → Option Cluster
  | .sendHeartbeat info => ofMember config g info (c.sendHeartbeat info.address)
  | .recvHeartbeat i now => c.recvHeartbeat i now
  | .checkHeartbeat now key => c.checkHeartbeat now key
  | .awaitStatus info => ofMember config g info (c.awaitStatus info.address)
  | .receiveStatus info i => ofMember config g info (c.receiveStatus info i)
  | .disable info => ofMember config g info (c.disable info.address)
  | .enable info result => ofMember config g info (c.enable info.address result)
  | .restart info result => ofMember config g info (c.restart config info result)

end Cluster

/-- A storage server that has just been started, from some files. -/
def Started (config : Configuration) (info : ServerInfo) (r : Replica) : Prop :=
  ∃ result d n, startProcess info.replicaGroup info config.servers result d = some n ∧
    r = ⟨n.server, false⟩

/-- The master and the replicas of group `g`, from when they were started. -/
def clusterSystem (config : Configuration) (g : Int) : System Cluster ClusterEvent where
  init := fun c => c.master = config.master ∧ c.heartbeats = [] ∧ (∀ a, c.statuses a = []) ∧
    ∀ info ∈ config.servers g, Started config info (c.replica info.address)
  next := Cluster.next config g

end CloudStorage
