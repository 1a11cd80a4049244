import CloudStorage.AdminConsole
import CloudStorage.ConfigFile
import CloudStorage.Frontend

/-!
# The admin console

`thread_worker` of `admin.cc` for one connection, with the functions that it calls, and the
servers that it talks to. A request comes as its line, its headers and its content; a page is
what its HTML is made from. Where the source throws, or reads where nothing is, nothing
results.
-/

namespace CloudStorage
open DelimitedText

/-! ### The connection thread -/

/-- What a connection thread of the admin console asks of others. -/
inductive PanelAction where
  /-- `connectToStorageNode(port)`, `sendToSocket` and `readFromSocket`. -/
  | console (port : Int) (command : Str)
  | send_msg_udp (port : Int) (msg : Str)
  | system (cmd : Str)

abbrev PanelAction.Answer : PanelAction → Type
  | .console _ _ => Str
  | .send_msg_udp _ _ => Unit
  | .system _ => Unit

abbrev PanelDialogue := Dialogue PanelAction PanelAction.Answer

def consoleExchange (port : Int) (command : Str) : PanelDialogue Str :=
  Dialogue.question (PanelAction.console port command)

inductive PanelCode where
  | NOTFOUND
  | ADMIN
  | FRONTSERVER
  | BACKSERVER
  | STORAGE
  | VALUE
deriving DecidableEq

/-- The globals, which all connections share. -/
structure Panel where
  frontend_servers : FrontendServerMap
  backend_servers : ServerMap

/-- The variables of `thread_worker` that survive a request. `server_port` is not initialized. -/
structure PanelSession where
  reply_code : PanelCode := .NOTFOUND
  server_port : Option Int := none
  rowkey : Str := []
  colkey : Str := []
deriving DecidableEq

/-- What the reply is made from. -/
inductive PanelPage where
  /-- The ports of the servers, with `isDead`. -/
  | admin (frontends : List (Int × Bool)) (backends : List (Int × List (Int × Bool)))
  | storage (all_pairs : List (Str × Str))
  | value (data : Str)
  | error (err_code : PanelCode)
deriving DecidableEq

def Panel.renderAdminPage (p : Panel) : PanelPage :=
  .admin (p.frontend_servers.entries.map (fun e => (e.2.udpPort, e.2.isDead)))
    (p.backend_servers.entries.map
      (fun e => (e.1, e.2.map (fun info => (info.tcpPort2, info.isDead)))))

/-- `get_storage_content`; a line without a comma is passed over. -/
def get_storage_content (port : Int) : PanelDialogue (List (Str × Str)) := do
  let response ← consoleExchange port "GETALL 0\r\n".toList
  return ((getlines '\n' (after '\n' response)).filter (fun line => ',' ∈ line)).map
    (fun line => (before ',' line, after ',' line))

def get_value (port : Int) (rowkey colkey : Str) : PanelDialogue Str := do
  let response ← consoleExchange port
    ("GET ".toList ++ rowkey ++ ",".toList ++ colkey ++ "\r\n".toList)
  .ofOption (substr 4 response)

def PanelSession.generateReply (s : PanelSession) (p : Panel) : PanelDialogue PanelPage :=
  match s.reply_code with
  | .ADMIN | .FRONTSERVER | .BACKSERVER => return p.renderAdminPage
  | .STORAGE => do
    let port ← .ofOption s.server_port
    return .storage (← get_storage_content port)
  | .VALUE => do
    let port ← .ofOption s.server_port
    return .value (← get_value port s.rowkey s.colkey)
  | .NOTFOUND => return .error .NOTFOUND

/-- The url that the buttons of a server post to. -/
def serverUrl (port : Int) : Str := '/' :: toStr port

def PanelSession.getLine (s : PanelSession) (url : Str) : PanelSession :=
  { s with reply_code := if url = "/admin".toList then .ADMIN else .NOTFOUND }

/-- The loop over the storage servers leaves only the group of the server that it finds. -/
def PanelSession.findBackend (s : PanelSession) (url : Str) (group : Int × List BackendServerInfo) :
    PanelSession :=
  match group.2.find? (fun info => url = serverUrl info.tcpPort2) with
  | some info => { s with reply_code := .BACKSERVER, server_port := some info.tcpPort2 }
  | none => s

def PanelSession.findFrontend (s : PanelSession) (url : Str) (servers : FrontendServerMap) :
    PanelSession :=
  match servers.entries.find? (fun e => url = serverUrl e.2.udpPort) with
  | some e => { s with reply_code := .FRONTSERVER, server_port := some e.2.udpPort }
  | none => s

/-- A url that is not known leaves the variables as the last request left them. -/
def PanelSession.postLine (s : PanelSession) (p : Panel) (url : Str) : PanelSession :=
  let s := s.findFrontend url p.frontend_servers
  let s := p.backend_servers.entries.foldl (fun s group => s.findBackend url group) s
  if url = "/get-value".toList then { s with reply_code := .VALUE } else s

/-- The first frontend with the port is marked. -/
def Panel.mark (p : Panel) (port : Int) (isDead : Bool) : Panel :=
  match p.frontend_servers.entries.find? (fun e => e.2.udpPort = port) with
  | some e => { p with
      frontend_servers := p.frontend_servers.insert e.1 { e.2 with isDead := isDead } }
  | none => p

/-- The content of a request, whose first seven characters are those of `action=`. -/
def PanelSession.requestContent (s : PanelSession) (p : Panel) (content : Str) :
    PanelDialogue (PanelSession × Panel) := do
  let rest ← .ofOption (substr 7 content)
  let action := cString rest
  if action = "VIEW".toList then return ({ s with reply_code := .STORAGE }, p)
  else match s.reply_code with
    | .FRONTSERVER => do
      let port ← .ofOption s.server_port
      let _ ← Dialogue.question (PanelAction.send_msg_udp port action)
      if action = "ENABLE".toList then do
        let _ ← Dialogue.question (PanelAction.system
          ("./frontendserver -v -p ".toList ++ toStr (port - 10000) ++ " &".toList))
        return (s, p.mark port false)
      else return (s, p.mark port true)
    | .BACKSERVER => do
      let port ← .ofOption s.server_port
      let _ ← consoleExchange port (action ++ "\r\n".toList)
      return (s, p)
    | .VALUE =>
      let msg_map := parseQuery (cString content)
      return ({ s with rowkey := msg_map "key".toList, colkey := msg_map "value".toList }, p)
    | .NOTFOUND | .ADMIN | .STORAGE => return (s, p)

def PanelSession.requestLine (s : PanelSession) (p : Panel) (method : Method) (url : Str) :
    PanelSession :=
  match method with
  | .GET => s.getLine url
  | .POST => s.postLine p url

def PanelSession.request (s : PanelSession) (p : Panel) (r : Request) :
    PanelDialogue (PanelPage × PanelSession × Panel) := do
  let (url, _) ← .ofOption (urlOf r.target)
  let s := s.requestLine p r.method url
  let x ← if r.content = [] then pure (s, p) else s.requestContent p r.content
  let page ← x.1.generateReply x.2
  return (page, x)

/-- `main` before connections are accepted, with the two files of the configuration. -/
def startAdmin (b : Base64) (sent : Bool) (received : List (Option Str)) (frontendConfig : Str) :
    Option Panel := do
  let configFile ← getConfigFile b sent received
  let backend_servers ← parseBackendServers configFile .empty
  let frontend_servers ← parseFrontendServers frontendConfig .empty
  return { frontend_servers, backend_servers }

/-! ### The servers at the other end -/

/-- The commands of one connection to a storage server's console, and the replies. -/
def adminConsoleSignalHandler (result : Nat) : List Str → Node → Option (Node × Str)
  | [], n => some (n, [])
  | command :: commands, n => do
    let (n, reply) ← adminConsole result command n
    let (n, replies) ← adminConsoleSignalHandler result commands n
    return (n, reply ++ replies)

/-- Who accepts connections on a port of this machine. -/
inductive ConsolePeer where
  | storage (n : Node)
  /-- The master, with its configuration file. -/
  | master (file : Str)

structure PanelWorld where
  peer : Int → Option ConsolePeer
  datagrams : List (Int × Str) := []
  started : List Str := []

/-- How the bytes of a reply are cut up on their way. -/
def Cuts (cut : Str → List Str) : Prop := ∀ reply, (cut reply).flatten = reply

/-- A console reads once, at most one buffer; a shorter text arrives in one piece. No call
succeeds on the socket -1 of a connection that failed. -/
def answerConsole (b : Base64) (result : Nat) (cut : Str → List Str) (port : Int) (text : Str)
    (w : PanelWorld) : Option (Str × PanelWorld) :=
  if BUFFER_SIZE < text.length then none
  else match w.peer port with
    | some (.storage n) => do
      let (n, reply) ← adminConsoleSignalHandler result (commandLines [] text) n
      let response ← Panel.readFromBackendSocket ((cut reply).map some)
      return (response, { w with peer := assign w.peer port (some (.storage n)) })
    | some (.master file) => do
      let reply := (receiveAdminConsoleRequest b file text).flatten
      let response ← Panel.readFromBackendSocket ((cut reply).map some)
      return (response, w)
    | none => some ([], w)

def answerPanel (b : Base64) (result : Nat) (cut : Str → List Str) :
    (i : PanelAction) → PanelWorld → Option (i.Answer × PanelWorld)
  | .console port text, w => answerConsole b result cut port text w
  | .send_msg_udp port msg, w => some ((), { w with datagrams := w.datagrams ++ [(port, msg)] })
  | .system cmd, w => some ((), { w with started := w.started ++ [cmd] })

end CloudStorage
