import CloudStorage.Server

/-!
# The command interpreter

`handleCommand` of `kvstore.cc`. A write at the primary or at a secondary waits for other
servers, so handling a command either finishes at once or hands over a command to forward
together with what to do with the outcome.
-/

namespace CloudStorage
open DelimitedText

/-- A write command with the parameters it uses. -/
inductive Write where
  | put (row col value : Str)
  | cput (row col currentValue newValue : Str)
  | delete (row col : Str)
deriving DecidableEq

namespace Write

/-- `parameters[0]`, the command word with its blank. -/
def word : Write → Str
  | put _ _ _ => "PUT ".toList
  | cput _ _ _ _ => "CPUT ".toList
  | delete _ _ => "DELETE ".toList

def fields : Write → List Str
  | put row col value => [row, col, value]
  | cput row col currentValue newValue => [row, col, currentValue, newValue]
  | delete row col => [row, col]

/-- `appendCommand`: the line that goes into a log. -/
def line (w : Write) : Str := w.word ++ joined ',' w.fields

/-- `tempCommand`: the line sent to another server, tagged with the sender's role. -/
def tempCommand (w : Write) (tag : Str) : Str :=
  w.line ++ ",".toList ++ tag ++ "\r\n".toList

/-- The table after the write, and whether the write took effect. The comparison of a
conditional write goes through `operator[]`, which adds an empty cell where there is none. -/
def run : Write → Table → Table × Bool
  | put row col value, t => (t.set row col value, true)
  | cput row col currentValue newValue, t =>
    let t := t.touch row col []
    if t.get row col = some currentValue then (t.set row col newValue, true) else (t, false)
  | delete row col, t => (t.eraseCell row col, true)

end Write

def okMsg : Str := "+OK\r\n".toList

def conditionalErr : Str := "-ERR Conditional Write Failed\r\n".toList

/-- Carries a write out on this server's own table and log. -/
def applyWrite (w : Write) (n : Node) : Node × Str :=
  let (t, ok) := w.run n.server.table
  if ok then (handleAppend w.line (n.setTable t), okMsg) else (n.setTable t, conditionalErr)

/-- Who sent a command, by its last parameter. -/
inductive Origin where
  | primary
  | secondary
  | frontend
deriving DecidableEq

/-- The origin as `threadFunc` decides it. -/
def classify (parameters : List Str) : Origin :=
  if 4 ≤ parameters.length ∧ (parameters.head? = some "PUT ".toList ∨
      parameters.head? = some "CPUT ".toList ∨ parameters.head? = some "DELETE ".toList) then
    if parameters.getLast? = some "PRIMARY".toList then .primary
    else if parameters.getLast? = some "SECONDARY".toList then .secondary
    else .frontend
  else .frontend

/-- How far `handleCommand` gets without another server. -/
inductive Handling where
  /-- The reply is known. -/
  | finished (n : Node) (msg : Str)
  /-- `forwardToAllSecondaryServers(command)` is called; `resume` continues with its result. -/
  | secondaries (command : Str) (resume : Bool → Node → Node × Str)
  /-- `forwardToPrimary(command)` is called; `resume` continues with its result. -/
  | primary (command : Str) (resume : Bool → Node → Node × Str)
  /-- A parameter that is not there is read. -/
  | undefined

/-- The reply of a primary whose secondaries did not all take the write. -/
def Write.secondaryErr : Write → Str
  | .put _ _ _ => "-ERR Writing PUT values to secondary\r\n".toList
  | .cput _ _ _ _ => "-ERR Writing CPUT values to secondary\r\n".toList
  | .delete _ _ => "-ERR DELETING values from all secondary\r\n".toList

/-- The reply of a secondary whose primary did not take the write. -/
def Write.primaryErr : Write → Str
  | .put _ _ _ => "-ERR Returned by Server while writing PUT Values\r\n".toList
  | .cput _ _ _ _ => "-ERR Error Editing the values\r\n".toList
  | .delete _ _ => "-ERR Error Deleting Values\r\n".toList

/-- The branches that the three write commands share. -/
def handleWrite (w : Write) (origin : Origin) (msg : Str) (n : Node) : Handling :=
  if n.server.currentlyInitializing then
    .finished (applyWrite w n).1 (applyWrite w n).2
  else if n.server.myInfo.isPrimary then
    .secondaries (w.tempCommand "PRIMARY".toList)
      (fun ok n => if ok then applyWrite w n else (n, w.secondaryErr))
  else match origin with
    | .frontend =>
      .primary (w.tempCommand "SECONDARY".toList)
        (fun ok n => (n, if ok then okMsg else w.primaryErr))
    | .primary => .finished (applyWrite w n).1 (applyWrite w n).2
    | .secondary => .finished n msg

def handlePut (args : List Str) (origin : Origin) (msg : Str) (n : Node) : Handling :=
  match args with
  | row :: col :: value :: _ => handleWrite (.put row col value) origin msg n
  | _ => .finished n "-ERR Invalidp PUT parameters\r\n".toList

def handleCput (args : List Str) (origin : Origin) (msg : Str) (n : Node) : Handling :=
  match args with
  | row :: col :: currentValue :: newValue :: _ =>
    handleWrite (.cput row col currentValue newValue) origin msg n
  | _ => .finished n "-ERR Invalid CPUT parameters\r\n".toList

def handleDelete (args : List Str) (origin : Origin) (msg : Str) (n : Node) : Handling :=
  match args with
  | row :: col :: _ => handleWrite (.delete row col) origin msg n
  | _ => .finished n "-ERR Invalid DELETE parameters\r\n".toList

def getReply (t : Table) (args : List Str) : Str :=
  match args with
  | [row, col] =>
    match t.get row col with
    | some value => "+OK ".toList ++ value ++ "\r\n".toList
    | none => "-ERR Not Found\r\n".toList
  | _ => "-ERR Invalid GET parameters\r\n".toList

/-- The reply to LIST. The loops read a parameter only when they reach it, so a missing one
is read only if some row, or some column of the row, is there. -/
def listReply (t : Table) (args : List Str) : Option Str :=
  let nothing := "-ERR Nothing Found\r\n".toList
  match args with
  | [] => if t.entries = [] then some nothing else none
  | [row] => if (t.row row).entries = [] then some nothing else none
  | row :: start :: _ =>
    let columns := ((t.row row).entries.map Sigma.fst).filter (fun col => start.isPrefixOf col)
    let keys := columns.flatMap (fun col => col ++ "\n".toList)
    some (if 0 < keys.length then keys ++ "\r\n".toList else nothing)

def handleCommand (parameters : List Str) (origin : Origin) (msg : Str) (n : Node) : Handling :=
  match parameters with
  | [] => .undefined
  | word :: args =>
    if word = "PUT ".toList then handlePut args origin msg n
    else if word = "GET ".toList then .finished n (getReply n.server.table args)
    else if word = "CPUT ".toList then handleCput args origin msg n
    else if word = "DELETE ".toList then handleDelete args origin msg n
    else if word = "LIST ".toList then
      match listReply n.server.table args with
      | some reply => .finished n reply
      | none => .undefined
    else .finished n "-ERR Unknown command\r\n".toList

end CloudStorage
