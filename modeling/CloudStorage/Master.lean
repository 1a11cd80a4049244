import CloudStorage.Status

/-!
# The master

`recvHeartbeat` and `checkHeartbeats` of `master.cc`: which servers are alive and which one
is the primary of its group. Both also return the status messages they send.
-/

namespace CloudStorage
open DelimitedText

/-- Milliseconds without a heartbeat after which a server counts as dead. -/
def DEAD_THRESHOLD : Nat := 300

/-- `m[key] = value`; without the cast of `Function.update`, so that runs can be computed. -/
def assign {κ ν : Type} [DecidableEq κ] (m : κ → ν) (key : κ) (value : ν) : κ → ν :=
  fun k => if k = key then value else m k

/-- `primaryServers`. -/
abbrev Primaries := Int → Option ServerInfo

/-- The globals of the master. -/
structure Master where
  servers : Int → List ServerInfo
  primaryServers : Primaries
  last_heartbeat : Str → Option Nat

/-- What `operator[]` of a map adds under a key that is not there. -/
def defaultInfo : ServerInfo where
  ip := []
  tcpPort := 0
  udpPort2 := 0
  replicaGroup := 0

/-- `primaryServers[replicaGroup]`. -/
def getPrimary (replicaGroup : Int) (ps : Primaries) : ServerInfo × Primaries :=
  match ps replicaGroup with
  | some info => (info, ps)
  | none => (defaultInfo, assign ps replicaGroup (some defaultInfo))

/-- The key of a server in `last_heartbeat`. -/
def heartbeatKey (info : ServerInfo) : Str :=
  toStr info.replicaGroup ++ ";".toList ++ endpoint info

/-- What `sendHeartbeat` of a storage server sends. -/
def heartbeatMessage (replicaGroup tcpPort : Int) : Str :=
  toStr replicaGroup ++ ",".toList ++ toStr tcpPort ++ ",heartbeat".toList

/-- The group and the port that `recvHeartbeat` reads. -/
def readHeartbeat (message : Str) : Option (Int × Int) := do
  let replicaGroup ← stoi (before ',' message)
  let rest := after ',' message
  let senderTCP ← stoi (match find ',' (posAfter ',' message) message with
    | some second => rest.take (second - 1)
    | none => rest)
  return (replicaGroup, senderTCP)

/-- What a server that is newly alive leads to: its entry, the primaries and the messages. -/
def revive (replicaGroup : Int) (info : ServerInfo) (ps : Primaries) :
    ServerInfo × Primaries × List Datagram :=
  let info := { info with isDead := false }
  let (info, ps) := match ps replicaGroup with
    | some _ => (info, ps)
    | none =>
      let info := { info with isPrimary := true }
      (info, assign ps replicaGroup (some info))
  let (primary, ps) := getPrimary info.replicaGroup ps
  let status := sendIsPrimary info.isPrimary info primary { defaultInfo with isDead := false }
  (info, ps, status ::
    if info.isPrimary then [] else [sendNewSecondaryInfoToPrimary primary info])

/-- The loop of `recvHeartbeat` over the servers of the group; `tempInfo` is the last entry
with the sender's port. -/
def heartbeatLoop (replicaGroup senderTCP : Int) (tempInfo : ServerInfo) (ps : Primaries) :
    List ServerInfo → List ServerInfo × ServerInfo × Primaries × List Datagram
  | [] => ([], tempInfo, ps, [])
  | info :: rest =>
    if info.tcpPort = senderTCP then
      if info.isDead = false then
        let (rest, tempInfo, ps, out) := heartbeatLoop replicaGroup senderTCP info ps rest
        (info :: rest, tempInfo, ps, out)
      else
        let (info', ps, sent) := revive replicaGroup info ps
        let (rest, tempInfo, ps, out) := heartbeatLoop replicaGroup senderTCP info ps rest
        (info' :: rest, tempInfo, ps, sent ++ out)
    else
      let (rest, tempInfo, ps, out) := heartbeatLoop replicaGroup senderTCP tempInfo ps rest
      (info :: rest, tempInfo, ps, out)

def recvHeartbeat (now : Nat) (message : Str) (m : Master) : Option (Master × List Datagram) := do
  let (replicaGroup, senderTCP) ← readHeartbeat message
  let (list, tempInfo, ps, out) :=
    heartbeatLoop replicaGroup senderTCP defaultInfo m.primaryServers (m.servers replicaGroup)
  return ({ servers := assign m.servers replicaGroup list
            primaryServers := ps
            last_heartbeat := assign m.last_heartbeat (heartbeatKey tempInfo) (some now) },
    out)

/-- The group and the address in a key of `last_heartbeat`. -/
def readKey (key : Str) : Option (Int × Address) := do
  let deadRepID ← stoi (before ';' key)
  let deadTCP ← stoi (after ':' key)
  return (deadRepID, (between ';' ':' key, deadTCP))

/-- The first loop for a dead server: its entries are marked, and the last of them, as it
was before it lost its role, is kept in `deadServerInfo`. -/
def deathLoop (dead : Address) (deadServerInfo : ServerInfo) (ps : Primaries) :
    List ServerInfo → List ServerInfo × ServerInfo × Primaries
  | [] => ([], deadServerInfo, ps)
  | it :: rest =>
    if it.address = dead then
      let it := { it with isDead := true }
      let ps := if it.isPrimary then assign ps it.replicaGroup none else ps
      let (rest, deadServerInfo, ps) := deathLoop dead it ps rest
      ({ it with isPrimary := false } :: rest, deadServerInfo, ps)
    else
      let (rest, deadServerInfo, ps) := deathLoop dead deadServerInfo ps rest
      (it :: rest, deadServerInfo, ps)

/-- The loop after a primary died: the first server alive becomes primary, and those behind
it on the list are told. -/
def electionLoop (deadServerInfo : ServerInfo) (primaryAssigned : Bool) (ps : Primaries) :
    List ServerInfo → List ServerInfo × Primaries × List Datagram
  | [] => ([], ps, [])
  | it :: rest =>
    if primaryAssigned then
      let (primary, ps) := getPrimary it.replicaGroup ps
      let (rest, ps, out) := electionLoop deadServerInfo true ps rest
      (it :: rest, ps, sendIsPrimary false it primary deadServerInfo :: out)
    else if it.isDead = false then
      let it := { it with isPrimary := true }
      let ps := assign ps deadServerInfo.replicaGroup (some it)
      let (primary, ps) := getPrimary it.replicaGroup ps
      let (rest, ps, out) := electionLoop deadServerInfo true ps rest
      (it :: rest, ps, sendIsPrimary true it primary deadServerInfo :: out)
    else
      let (rest, ps, out) := electionLoop deadServerInfo false ps rest
      (it :: rest, ps, out)

/-- The loop after a secondary died: every server alive is told. -/
def informLoop (deadServerInfo : ServerInfo) (ps : Primaries) :
    List ServerInfo → Primaries × List Datagram
  | [] => (ps, [])
  | it :: rest =>
    if it.isDead = false then
      let (primary, ps) := getPrimary it.replicaGroup ps
      let (ps, out) := informLoop deadServerInfo ps rest
      (ps, sendIsPrimary it.isPrimary it primary deadServerInfo :: out)
    else informLoop deadServerInfo ps rest

/-- What `checkHeartbeats` does for a server that timed out. -/
def serverDied (key : Str) (m : Master) : Option (Master × List Datagram) := do
  let (deadRepID, dead) ← readKey key
  let (list, deadServerInfo, ps) := deathLoop dead defaultInfo m.primaryServers
    (m.servers deadRepID)
  let (list, ps, out) :=
    if deadServerInfo.isPrimary then electionLoop deadServerInfo false ps list
    else
      let (ps, out) := informLoop deadServerInfo ps list
      (list, ps, out)
  return ({ servers := assign m.servers deadRepID list
            primaryServers := ps
            last_heartbeat := assign m.last_heartbeat key none }, out)

/-- One pass of `checkHeartbeats`, which visits the keys in some order. -/
def checkHeartbeats (now : Nat) : List Str → Master → Option (Master × List Datagram)
  | [], m => some (m, [])
  | key :: keys, m =>
    match m.last_heartbeat key with
    | some t =>
      if DEAD_THRESHOLD < now - t then do
        let (m, out) ← serverDied key m
        let (m, out') ← checkHeartbeats now keys m
        return (m, out ++ out')
      else checkHeartbeats now keys m
    | none => checkHeartbeats now keys m

end CloudStorage
