import CloudStorage.Lib.NestedMap
import CloudStorage.Text
import Mathlib.Logic.Function.Basic

/-!
# A storage server and its files

The globals of `kvstore.cc` and `helper.h`, and the files under `./storage`, which all
storage servers share.
-/

namespace CloudStorage
open DelimitedText

def CHECKPOINTING_THRESHOLD : Nat := 3

/-- `table`: rows to columns to values. The order of the entries stands for the
iteration order of the `unordered_map`. -/
abbrev Table := NestedMap Str Str Str

/-- `ServerInfo` of `helper.h`, less the ports that no modelled function reads. -/
structure ServerInfo where
  ip : Str
  tcpPort : Int
  udpPort2 : Int
  isPrimary : Bool := false
  isDead : Bool := true
  replicaGroup : Int
deriving DecidableEq

/-- Where a storage server accepts connections. -/
abbrev Address := Str × Int

def ServerInfo.address (info : ServerInfo) : Address := (info.ip, info.tcpPort)

/-- The globals of a storage server process. -/
structure Server where
  table : Table := ∅
  servers : Int → List ServerInfo
  myInfo : ServerInfo
  primaryInfo : ServerInfo
  replicaGroup : Int
  enabled : Bool := true
  currentlyInitializing : Bool := false
  currentlyReadingFromCheckpointFile : Bool := false
  currentNumberOfWritesForReplicaAndServer : Nat := 0
  diskFilePath : Str

/-- `servers[myInfo.replicaGroup]`. -/
def Server.serverList (s : Server) : List ServerInfo := s.servers s.myInfo.replicaGroup

/-! ### Files -/

/-- The contents of the files that exist. -/
abbrev Disk := Str → Option Str

/-- What `getline` sees in a file that was just created where it did not exist. -/
def readFile (path : Str) (d : Disk) : Str := (d path).getD []

/-- The steps that `checkpoint_table` and `truncateFile` ask of the file system. -/
inductive FileStep where
  | truncate (path : Str)
  | append (path : Str) (ch : Char)
  | remove (path : Str)
  | rename (source target : Str)

def FileStep.run : FileStep → Disk → Disk
  | .truncate path, d => Function.update d path (some [])
  | .append path ch, d => Function.update d path (some (readFile path d ++ [ch]))
  | .remove path, d => Function.update d path none
  | .rename source target, d =>
    match d source with
    | some s => Function.update (Function.update d source none) target (some s)
    | none => d

def runFileSteps (steps : List FileStep) (d : Disk) : Disk :=
  steps.foldl (fun d step => step.run d) d

def appendToFile (path lineToAppend : Str) (d : Disk) : Disk :=
  Function.update d path (some (readFile path d ++ lineToAppend ++ ['\n']))

def tmpPath (diskFile : Str) : Str := diskFile ++ ".tmp".toList

def checkpointPath (diskFile : Str) : Str := diskFile ++ "-checkpoint".toList

def deadServerLogPath (diskFile : Str) : Str := diskFile ++ "-deadServerLog".toList

/-- `"./storage/RP" + to_string(replicaGroup) + "-" + to_string(tcpPort)`. -/
def storagePath (replicaGroup tcpPort : Int) : Str :=
  "./storage/RP".toList ++ toStr replicaGroup ++ "-".toList ++ toStr tcpPort

/-- The lines `checkpoint_table` writes: the time, then one line for each cell. -/
def checkpointLines (result : Nat) (t : Table) : List Str :=
  toStr result :: t.cells.map (fun e => joined ',' [e.1.1, e.1.2, e.2])

def checkpointText (result : Nat) (t : Table) : Str := terminated '\n' (checkpointLines result t)

/-- The file-system steps of `checkpoint_table`, in order; the text goes out character by
character, so that a run cut off after any number of steps is a prefix of the list. -/
def checkpointSteps (diskFile : Str) (result : Nat) (t : Table) : List FileStep :=
  .truncate (tmpPath diskFile) ::
    (checkpointText result t).map (.append (tmpPath diskFile)) ++
    [.remove diskFile, .rename (tmpPath diskFile) diskFile, .truncate (checkpointPath diskFile)]

def checkpointTable (diskFile : Str) (result : Nat) (t : Table) (d : Disk) : Disk :=
  runFileSteps (checkpointSteps diskFile result t) d

/-- A storage server process together with the files it can reach. -/
structure Node where
  server : Server
  disk : Disk

def Node.setTable (n : Node) (t : Table) : Node :=
  { n with server := { n.server with table := t } }

/-- Appends a write command to the log and counts it, except while the log is read. -/
def handleAppend (command : Str) (n : Node) : Node :=
  if 0 < command.length ∧ n.server.currentlyReadingFromCheckpointFile = false then
    { server := { n.server with
        currentNumberOfWritesForReplicaAndServer :=
          n.server.currentNumberOfWritesForReplicaAndServer + 1 }
      disk := appendToFile (checkpointPath n.server.diskFilePath) command n.disk }
  else n

end CloudStorage
