import CloudStorage.Master

/-!
# Requests to the master

`handleIncomingRequests` of `master.cc`, which tells a frontend the storage server of a user.
Where the source indexes outside a list or divides by zero, nothing results.
-/

namespace CloudStorage
open DelimitedText

/-- The globals that the thread uses. -/
structure Dispatcher where
  servers : Int → List ServerInfo
  nextServerRoundRobin : Int → Nat

/-- The group that is assigned by the first character, which is NUL in an empty name. For
other characters than letters and digits none is. -/
def replicaGroupOf (username : Str) : Option Int :=
  let firstChar := (username.head?.getD '\x00').toLower
  if 'a' ≤ firstChar ∧ firstChar ≤ 'i' then some 1
  else if 'j' ≤ firstChar ∧ firstChar ≤ 'r' then some 2
  else if ('s' ≤ firstChar ∧ firstChar ≤ 'z') ∨ ('0' ≤ firstChar ∧ firstChar ≤ '9') then some 3
  else none

/-- The loop over the servers, in at most `steps` steps: the first one alive and the index
behind it. -/
def searchLoop (list : List ServerInfo) (startServerIndex : Nat) :
    Nat → Nat → Option (Option (ServerInfo × Nat))
  | 0, _ => none
  | steps + 1, currentServerIndex => do
    let selectedServer ← list[currentServerIndex]?
    let next := (currentServerIndex + 1) % list.length
    if selectedServer.isDead = false then return some (selectedServer, next)
    else if next = startServerIndex then return none
    else searchLoop list startServerIndex steps next

def serverReply (info : ServerInfo) : Str :=
  "SERVER_INFO:".toList ++ endpoint info ++ "\r\n".toList

def noServersReply : Str := "-ERR NO_SERVERS_ALIVE\r\n".toList

/-- The answer to `GET_SERVER`. The variable of the group is not initialized, and `junk` is
what it holds. -/
def getServer (junk : Int) (username : Str) (s : Dispatcher) : Option (Str × Dispatcher) := do
  let replicaGroup := (replicaGroupOf username).getD junk
  let list := s.servers replicaGroup
  let start := s.nextServerRoundRobin replicaGroup
  match ← searchLoop list start list.length start with
  | some (selectedServer, next) =>
    return (serverReply selectedServer, { s with
      nextServerRoundRobin := assign s.nextServerRoundRobin replicaGroup next })
  | none => return (noServersReply, s)

/-- One command; others than `GET_SERVER` are not answered. -/
def handleRequest (junk : Int) (command : Str) (s : Dispatcher) : Option (Str × Dispatcher) :=
  if (command.map Char.toUpper).take 11 = "GET_SERVER:".toList then
    getServer junk (command.drop 11) s
  else some ([], s)

/-- The answers to commands one after another, on one connection or on several. -/
def handleIncomingRequests : List (Int × Str) → Dispatcher → Option (List Str × Dispatcher)
  | [], s => some ([], s)
  | (junk, command) :: commands, s => do
    let (reply, s) ← handleRequest junk command s
    let (replies, s) ← handleIncomingRequests commands s
    return (reply :: replies, s)

end CloudStorage
