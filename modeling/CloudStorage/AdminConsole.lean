import CloudStorage.Storage

/-!
# The admin console of a storage server

What `adminConsoleSignalHandler` of `kvstore.cc` does with one line: the server afterwards
and the response. Where a parameter that is not there is read, where a conversion throws, and
where `initialize` comes to such an end, nothing results.
-/

namespace CloudStorage
open DelimitedText

/-- The parts of a line; a line without a blank is not split. -/
def consoleCommands (command : Str) : List Str :=
  if ' ' ∈ command then splitKVStoreCommand command else []

/-- The word that is compared with the names of the commands. -/
def consoleWord (command : Str) : Str :=
  ((consoleCommands command).headD command).map Char.toUpper

/-- A disabled server is enabled, and initializes again over the table that it has. -/
def enableServer (result : Nat) (n : Node) : Option Node :=
  let s := { n.server with enabled := true, currentlyInitializing := true }
  (initializeFrom s.diskFilePath result ⟨s, n.disk⟩).map
    (fun n => { n with server := { n.server with currentlyInitializing := false } })

/-- Three cells of the table behind the first `skip`. -/
def getAllReply (skip : Int) (t : Table) : Str :=
  let cells := t.cells.zipIdx.filter (fun e => skip ≤ e.2 ∧ e.2 < skip + 3)
  "+OK\n".toList ++
    cells.flatMap (fun e => e.1.1.1 ++ ",".toList ++ e.1.1.2 ++ "\n".toList) ++ "\r\n".toList

def adminConsole (result : Nat) (command : Str) (n : Node) : Option (Node × Str) :=
  let commands := consoleCommands command
  let temp := consoleWord command
  if temp = "ENABLE".toList ∧ n.server.enabled = false then
    (enableServer result n).map (fun n => (n, okMsg))
  else if temp = "DISABLE".toList ∧ n.server.enabled = true then
    some ({ n with server := { n.server with enabled := false } }, okMsg)
  else if temp = "GETALL ".toList then do
    let parameter ← commands[1]?
    let skip ← stoi parameter
    return (n, getAllReply skip n.server.table)
  else if temp = "GET ".toList then some (n, getReply n.server.table commands.tail)
  else some (n, "-ERR Invalid Command\r\n".toList)

end CloudStorage
