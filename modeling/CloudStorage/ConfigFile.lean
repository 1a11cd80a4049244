import CloudStorage.Configuration
import CloudStorage.Connection
import CloudStorage.Dispatcher
import CloudStorage.Lib.OrderedMap
import CloudStorage.MailReply
import CloudStorage.Storage

/-!
# The configuration file

`parseServers` of `helper.h`, with which the master and the storage servers read `config.txt`;
how the admin console gets the file from the master; and what the `main` functions make of
it. The files can be opened, and nothing results where `stoi` throws.
-/

namespace CloudStorage
open DelimitedText

/-- `ServerInfo` of `helper.h` with all its ports; `BackendServerInfo` of `admin.cc` has the
same fields. -/
structure BackendServerInfo where
  ip : Str
  tcpPort : Int
  udpPort : Int
  udpPort2 : Int
  tcpPort2 : Int
  isPrimary : Bool := false
  isDead : Bool := true
  replicaGroup : Int
deriving DecidableEq

def BackendServerInfo.serverInfo (info : BackendServerInfo) : ServerInfo where
  ip := info.ip
  tcpPort := info.tcpPort
  udpPort2 := info.udpPort2
  isPrimary := info.isPrimary
  isDead := info.isDead
  replicaGroup := info.replicaGroup

/-- A `map` from the groups to their servers. -/
abbrev ServerMap := OrderedMap Int (List BackendServerInfo)

namespace ServerMap

/-- `servers[replicaGroup]`. -/
def group (servers : ServerMap) (replicaGroup : Int) : List BackendServerInfo :=
  (servers.find? replicaGroup).getD []

/-- `servers[info.replicaGroup].push_back(info)`. -/
def push (servers : ServerMap) (info : BackendServerInfo) : ServerMap :=
  servers.insert info.replicaGroup (servers.group info.replicaGroup ++ [info])

/-- The servers in the order in which the loops of the `main` functions pass them. -/
def infos (servers : ServerMap) : List BackendServerInfo := servers.entries.flatMap Prod.snd

def serverInfos (servers : ServerMap) (replicaGroup : Int) : List ServerInfo :=
  (servers.group replicaGroup).map BackendServerInfo.serverInfo

end ServerMap

/-! ### Reading the file -/

/-- What stands behind the first colon of each part of a line; a part without a colon is
passed over. -/
def configParts (line : Str) : List Str :=
  ((getlines ',' line).filter (fun part => ':' ∈ part)).map (after ':')

/-- The lines that are not malformed, by their parts. -/
def configLines (size : Nat) (text : Str) : List (List Str) :=
  ((getlines '\n' text).map configParts).filter (fun parts => parts.length = size)

/-- The entry of a line. -/
def readInfo (parts : List Str) : Option BackendServerInfo :=
  match parts with
  | [replicaGroup, ip, tcpPort, udpPort, udpPort2, tcpPort2] => do
    let replicaGroup ← stoi replicaGroup
    let tcpPort ← stoi tcpPort
    let udpPort ← stoi udpPort
    let udpPort2 ← stoi udpPort2
    let tcpPort2 ← stoi tcpPort2
    return { ip, tcpPort, udpPort, udpPort2, tcpPort2, replicaGroup }
  | _ => none

def parseServers (text : Str) (servers : ServerMap) : Option ServerMap :=
  (configLines 6 text).foldlM (fun servers parts => (readInfo parts).map servers.push) servers

/-- The same loop in `admin.cc`, over the text that the master sent. -/
def parseBackendServers (fileContents : Str) (servers : ServerMap) : Option ServerMap :=
  parseServers fileContents servers

structure FrontendServerInfo where
  ip : Str
  tcpPort : Int
  udpPort : Int
  isDead : Bool := true
deriving DecidableEq

abbrev FrontendServerMap := OrderedMap Int FrontendServerInfo

def readFrontendInfo (parts : List Str) : Option FrontendServerInfo :=
  match parts with
  | [ip, tcpPort, udpPort] => do
    let tcpPort ← stoi tcpPort
    let udpPort ← stoi udpPort
    return { ip, tcpPort, udpPort }
  | _ => none

/-- The servers are numbered from 1, without the malformed lines. -/
def parseFrontendServers (text : Str) (servers : FrontendServerMap) :
    Option FrontendServerMap :=
  ((configLines 3 text).zipIdx 1).foldlM (fun servers line =>
    (readFrontendInfo line.1).map (servers.insert (line.2 : Int))) servers

/-! ### Sending the file to the admin console -/

/-- What `sendToAdminConsole` gives to `write`, one buffer after another. -/
def sendToAdminConsole (b : Base64) (file : Str) : List Str :=
  let encoded_string := b.encode file
  let writes := (encoded_string.length + BUFFER_SIZE - 1) / BUFFER_SIZE
  (List.range writes).map
    (fun k => (encoded_string.drop (BUFFER_SIZE * k)).take BUFFER_SIZE) ++ ["\r\n".toList]

/-- The writes for one command. -/
def adminRequest (b : Base64) (file command : Str) : List Str :=
  if command.map Char.toUpper = "REQUEST".toList then sendToAdminConsole b file ++ [[]]
  else ["-ERR Invalid Command\r\n".toList]

/-- The writes on a connection from whose socket `buffer` was read. -/
def receiveAdminConsoleRequest (b : Base64) (file buffer : Str) : List Str :=
  (commandLines [] buffer).flatMap (adminRequest b file)

/-- `readFromBackendSocket` of `admin.cc`, the loop of the mail server. -/
def Panel.readFromBackendSocket (received : List (Option Str)) : Option Str :=
  MailServer.readResponse [] received

/-- The file as the admin console has it, from what `recv` returns. -/
def getConfigFile (b : Base64) (sent : Bool) (received : List (Option Str)) : Option Str :=
  if sent then (Panel.readFromBackendSocket received).map b.decode
  else some "-ERR Error sending command to server".toList

/-! ### The main functions -/

/-- The loop of `main` that looks for an entry: the last one wins. -/
def lookFor (p : Int → BackendServerInfo → Bool) (servers : ServerMap) (info : BackendServerInfo) :
    BackendServerInfo :=
  servers.entries.foldl (fun found server =>
    server.2.foldl (fun found info => if p server.1 info then info else found) found) info

/-- `myInfo` before the file is read, with the port of the command line. -/
def argumentInfo (tcpPort : Int) : BackendServerInfo where
  ip := []
  tcpPort := tcpPort
  udpPort := 0
  udpPort2 := 0
  tcpPort2 := 0
  replicaGroup := 0

/-- What the threads of the master start with. -/
structure MasterProcess where
  master : Master
  dispatcher : Dispatcher
  myInfo : BackendServerInfo

/-- `main` of `master.cc` before the threads run. -/
def startMaster (tcpPort : Int) (config : Str) : Option MasterProcess := do
  let servers ← parseServers config .empty
  return {
    master := ⟨servers.serverInfos, fun _ => none, fun _ => none⟩
    dispatcher := ⟨servers.serverInfos, fun _ => 0⟩
    myInfo := lookFor (fun replicaGroup _ => replicaGroup = 0) servers (argumentInfo tcpPort) }

/-- What the threads of a storage server start with. -/
structure StorageProcess where
  node : Node
  myInfo : BackendServerInfo
  masterInfo : BackendServerInfo

/-- `main` of `kvstore.cc`, started with `-i` and `-p`, before the other threads run. -/
def startStorage (replicaGroup tcpPort : Int) (config : Str) (result : Nat) (d : Disk) :
    Option StorageProcess := do
  let s := startServer replicaGroup (argumentInfo tcpPort).serverInfo
  let n ← initializeFrom s.diskFilePath result ⟨s, d⟩
  let servers ← parseServers config .empty
  let masterInfo := lookFor (fun replicaGroup _ => replicaGroup = 0) servers (argumentInfo 0)
  let myInfo := lookFor (fun _ info => tcpPort = info.tcpPort) servers (argumentInfo tcpPort)
  return {
    node := { n with server := { n.server with
      currentlyInitializing := false
      servers := servers.serverInfos
      myInfo := myInfo.serverInfo } }
    myInfo := myInfo
    masterInfo := masterInfo }

end CloudStorage
