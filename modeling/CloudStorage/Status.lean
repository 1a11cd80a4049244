import CloudStorage.Server

/-!
# Status messages

The UDP messages by which the master tells a storage server its role, a server of its group
that died and a secondary that joined: built in `master.cc`, read in `receiveStatus` of
`kvstore.cc`. The text of a message ends before its terminating NUL.
-/

namespace CloudStorage
open DelimitedText

/-- A status message on its way to a storage server. -/
structure Datagram where
  ip : Str
  udpPort : Int
  text : Str
deriving DecidableEq

/-- `ip + ":" + to_string(tcpPort)`. -/
def endpoint (info : ServerInfo) : Str := info.ip ++ ":".toList ++ toStr info.tcpPort

def sendIsPrimary (isPrimary : Bool) (recvInfo primaryInfo deadInfo : ServerInfo) : Datagram where
  ip := recvInfo.ip
  udpPort := recvInfo.udpPort2
  text :=
    (if isPrimary then "PRIMARY:".toList
      else "SECONDARY:".toList ++ endpoint primaryInfo ++ "@".toList) ++
    (if deadInfo.isDead then ";".toList ++ endpoint deadInfo else [])

def sendNewSecondaryInfoToPrimary (primaryInfo secondaryInfo : ServerInfo) : Datagram where
  ip := primaryInfo.ip
  udpPort := primaryInfo.udpPort2
  text := "PRIMARY:".toList ++ endpoint secondaryInfo ++ "@".toList

/-- What a status message says: the role, the server it names before the `@` (a new
secondary, or the primary) and the server that died. -/
structure Status where
  isPrimary : Bool
  named : Option Address
  dead : Option Address
deriving DecidableEq

/-- An address as `receiveStatus` reads it. -/
def readEndpoint (s : Str) : Option Address := do
  let tcpPort ← stoi (after ':' s)
  return (before ':' s, tcpPort)

/-- The server named before the `@`: a secondary always reads one, a primary only where
there is an `@`. -/
def readNamed (isPrimary : Bool) (message : Str) : Option (Option Address) :=
  if isPrimary = true ∧ '@' ∉ message then some none
  else (readEndpoint (between ':' '@' message)).map some

def readDead (message : Str) : Option (Option Address) :=
  if ';' ∈ message then (readEndpoint (after ';' message)).map some else some none

/-- What `receiveStatus` reads from a text, nothing where a conversion throws. -/
def readStatus (message : Str) : Option Status := do
  let isPrimary := decide (before ':' message = "PRIMARY".toList)
  let named ← readNamed isPrimary message
  let dead ← readDead message
  return { isPrimary, named, dead }

/-- Changes the entries of `servers[group]` that have the address. -/
def Server.mapEntries (group : Int) (f : ServerInfo → ServerInfo) (a : Address) (s : Server) :
    Server :=
  let list := (s.servers group).map (fun it => if it.address = a then f it else it)
  { s with servers := Function.update s.servers group list }

/-- The role that the message gives. -/
def Server.setRole (isPrimary : Bool) (s : Server) : Server :=
  let myInfo := { s.myInfo with isPrimary := isPrimary, isDead := false }
  { s with myInfo := myInfo }.mapEntries myInfo.replicaGroup (fun _ => myInfo) myInfo.address

/-- A primary learns that a secondary is alive. -/
def Server.markAlive (a : Address) (s : Server) : Server :=
  s.mapEntries s.myInfo.replicaGroup (fun it => { it with isDead := false, isPrimary := false }) a

/-- A secondary learns who is primary; the last entry that fits is kept in `primaryInfo`. -/
def Server.followPrimary (a : Address) (s : Server) : Server :=
  let s := s.mapEntries s.myInfo.replicaGroup (fun it => { it with isPrimary := true }) a
  match (s.serverList.filter (fun it => it.address = a)).getLast? with
  | some it => { s with primaryInfo := it }
  | none => s

/-- The death is looked up under the group of the command line. -/
def Server.markDead (a : Address) (s : Server) : Server :=
  s.mapEntries s.replicaGroup (fun it => { it with isDead := true, isPrimary := false }) a

/-- The part of the message before the `@`. -/
def Server.heedNamed (isPrimary : Bool) (named : Option Address) (s : Server) : Server :=
  match named with
  | some a => if isPrimary then s.markAlive a else s.followPrimary a
  | none => s

/-- The part of the message after the `;`. -/
def Server.heedDead (dead : Option Address) (s : Server) : Server :=
  match dead with
  | some a => s.markDead a
  | none => s

/-- What `receiveStatus` does with what it read. -/
def Server.applyStatus (status : Status) (s : Server) : Server :=
  ((s.setRole status.isPrimary).heedNamed status.isPrimary status.named).heedDead status.dead

def receiveStatus (message : Str) (s : Server) : Option Server :=
  (readStatus message).map (fun status => s.applyStatus status)

end CloudStorage
