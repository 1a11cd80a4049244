import CloudStorage.Command

/-!
# Starting from the files

`initialize` and `crashRecoveryFunction` of `kvstore.cc`, and the checkpoint that follows
a logged command. The time a checkpoint writes is a parameter.
-/

namespace CloudStorage
open DelimitedText

def loadLine (t : Table) (line : Str) : Table :=
  match getlines ',' line with
  | [row, col, value] => t.set row col value
  | _ => t

def loadDataFile (text : Str) (t : Table) : Table :=
  (getlines '\n' text).foldl loadLine t

/-- `fstream file(path, ios::out | ios::app)`: the file exists afterwards. -/
def createFile (path : Str) (d : Disk) : Disk :=
  Function.update d path (some (readFile path d))

def truncateFile (path : Str) (d : Disk) : Disk := (FileStep.truncate path).run d

/-- The node when `handleCommand` returned without calling another server. -/
def Handling.node? : Handling → Option Node
  | .finished n _ => some n
  | _ => none

/-- A line of a log is handled as a command; while the server initializes it is never
forwarded. -/
def replayLine (n : Node) (line : Str) : Option Node :=
  (handleCommand (splitKVStoreCommand line) .frontend [] n).node?

def Node.setReading (n : Node) (b : Bool) : Node :=
  { n with server := { n.server with currentlyReadingFromCheckpointFile := b } }

def Node.setWrites (n : Node) (k : Nat) : Node :=
  { n with server := { n.server with currentNumberOfWritesForReplicaAndServer := k } }

def Node.writes (n : Node) : Nat := n.server.currentNumberOfWritesForReplicaAndServer

/-- A line of the server's own log is counted and handled. -/
def replayLogLine (n : Node) (line : Str) : Option Node :=
  replayLine (n.setWrites (n.writes + 1)) line

def checkpointNode (path : Str) (result : Nat) (n : Node) : Node :=
  { server := { n.server with currentNumberOfWritesForReplicaAndServer := 0 }
    disk := checkpointTable path result n.server.table n.disk }

/-- The checkpoints of `initialize`. -/
def checkpointIfFull (path : Str) (result : Nat) (n : Node) : Node :=
  if CHECKPOINTING_THRESHOLD ≤ n.writes then checkpointNode path result n else n

/-- The checkpoint of `threadFunc` after a command. -/
def checkpointAfter (result : Nat) (n : Node) : Node :=
  if n.writes = CHECKPOINTING_THRESHOLD then checkpointNode n.server.diskFilePath result n else n

/-- The first half of `crashRecoveryFunction`: the dead-server log is created if missing
and each of its lines handled. -/
def readDeadServerLog (path : Str) (n : Node) : Option Node :=
  let n := { n with disk := createFile (deadServerLogPath path) n.disk }
  (getlines '\n' (readFile (deadServerLogPath path) n.disk)).foldlM replayLine n

/-- The log is truncated after it was read. -/
def crashRecoveryFunction (path : Str) (n : Node) : Option Node :=
  (readDeadServerLog path n).map
    (fun n => { n with disk := truncateFile (deadServerLogPath path) n.disk })

/-- The first half of `initialize`: the data file is loaded, the log replayed over it. -/
def loadAndReplay (path : Str) (n : Node) : Option Node :=
  let n := { n with disk := createFile path n.disk }
  let n := n.setTable (loadDataFile (readFile path n.disk) n.server.table)
  let n := { n with disk := createFile (checkpointPath path) n.disk }
  let lines := getlines '\n' (readFile (checkpointPath path) n.disk)
  (lines.foldlM replayLogLine (n.setReading true)).map (fun n => n.setReading false)

def initializeFrom (path : Str) (result : Nat) (n : Node) : Option Node := do
  let n ← loadAndReplay path n
  let n ← crashRecoveryFunction path (checkpointIfFull path result n)
  return checkpointIfFull path result n

/-- The globals of a process that has just been started with `-i` and `-p`. -/
def startServer (replicaGroup : Int) (myInfo : ServerInfo) : Server where
  servers := fun _ => []
  myInfo := { myInfo with isPrimary := false, isDead := true }
  primaryInfo := { ip := [], tcpPort := 0, udpPort2 := 0, replicaGroup := 0 }
  replicaGroup := replicaGroup
  currentlyInitializing := true
  diskFilePath := storagePath replicaGroup myInfo.tcpPort

/-- What `main` does before the other threads run: it initializes from the files and then
reads the configuration. -/
def startProcess (replicaGroup : Int) (myInfo : ServerInfo) (servers : Int → List ServerInfo)
    (result : Nat) (d : Disk) : Option Node := do
  let s := startServer replicaGroup myInfo
  let n ← initializeFrom s.diskFilePath result ⟨s, d⟩
  return { n with server := { n.server with currentlyInitializing := false, servers := servers } }

end CloudStorage
