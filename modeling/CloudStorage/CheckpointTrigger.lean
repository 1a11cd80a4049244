import CloudStorage.Lib.Runs
import CloudStorage.Status
import CloudStorage.Storage

/-!
# When a checkpoint is made

The connection threads of one storage server. `threadFunc` handles a command and then compares
the counter of writes with the threshold, and other threads handle commands in between. The
status thread changes roles, and other processes write files of their own.
-/

namespace CloudStorage

/-- The node after `handleCommand`, where `ok` is what came back from another server. -/
def Handling.outcome (ok : Bool) (n : Node) : Handling → Option Node
  | .finished n _ => some n
  | .secondaries _ resume => some (resume ok n).1
  | .primary _ resume => some (resume ok n).1
  | .undefined => none

/-- A server, and the threads that have handled a command and not yet compared the counter. -/
structure CommandThreads where
  node : Node
  between : List Nat := []

inductive CommandStep where
  /-- Thread `i`, whose last reply was `msg`, handles a command. -/
  | handle (i : Nat) (command msg : Str) (ok : Bool)
  /-- Thread `i` compares the counter, and makes the checkpoint if it is due. -/
  | compare (i result : Nat)
  /-- A status message arrives. -/
  | status (message : Str)
  /-- Others write files. -/
  | files (d : Disk)

namespace CommandThreads

/-- The text of the server's own log. -/
def ownLog (n : Node) : Str := readFile (checkpointPath n.server.diskFilePath) n.disk

def next (s : CommandThreads) : CommandStep → Option CommandThreads
  | .handle i command msg ok =>
    if i ∉ s.between then
      let parameters := splitKVStoreCommand command
      let handling := handleCommand parameters (classify parameters) msg s.node
      (handling.outcome ok s.node).map
        (fun n => { node := n, between := i :: s.between })
    else none
  | .compare i result =>
    if i ∈ s.between then
      some { node := checkpointAfter result s.node, between := s.between.erase i }
    else none
  | .status message =>
    (receiveStatus message s.node.server).map
      (fun server => { s with node := { s.node with server := server } })
  | .files d =>
    if ownLog { s.node with disk := d } = ownLog s.node then
      some { s with node := { s.node with disk := d } }
    else none

/-- No thread is between a command and the comparison. -/
def Quiet (s : CommandThreads) : Prop := s.between = []

end CommandThreads

/-- The threads of a server that was started from any files. -/
def commandThreads : System CommandThreads CommandStep where
  init s := s.Quiet ∧ ∃ g info servers result d, startProcess g info servers result d = some s.node
  next s e := s.next e

end CloudStorage
