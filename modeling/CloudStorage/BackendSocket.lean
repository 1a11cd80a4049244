import CloudStorage.Dispatcher
import CloudStorage.FormText
import CloudStorage.Lib.Positions

/-!
# Connections to storage servers

The functions of `readingHelper.cc` that ask the master for a storage server, connect to it,
and talk to it. What the system calls return is a parameter; where the source throws, nothing
results.
-/

namespace CloudStorage
open Positions

/-! ### The reply of the master -/

/-- `s.find(pattern, pos)`. -/
def findStrFrom (pattern : Str) (pos : Nat) (s : Str) : Option Nat :=
  (findStr pattern (s.drop pos)).map (pos + ·)

def extractIPAndPort (serverInfo : Str) : Option (Str × Int) := do
  let ipStart := add (position (find ':' 0 serverInfo)) 1
  let ipEnd := position (find ':' ipStart serverInfo)
  let ip ← slice ipStart (sub ipEnd ipStart) serverInfo
  let portStart := add ipEnd 1
  let portEnd := position (findStrFrom "\r\n".toList portStart serverInfo)
  let port ← slice portStart (sub portEnd portStart) serverInfo
  return (ip, ← stoi port)

/-! ### Connecting -/

def buffer_size : Nat := 4096

/-- An entry of `backend_socks`. -/
structure BackendNode where
  ip : Str
  port : Int
  socket : Int
deriving DecidableEq

/-- What the calls in `connectToBackend` return, `none` standing for an error. -/
structure ConnectCalls where
  master_sock : Option Int
  masterConnected : Bool
  commandSent : Str → Bool
  /-- The reply that arrives. -/
  reply : Option Str
  /-- What stands in memory behind the part of the reply that was read. -/
  memory : Str
  backend_sock : Option Int
  backendConnected : Str → Int → Bool
  greeted : Bool

/-- What `connectToBackend` returns, with the new entry where it is 0. -/
inductive ConnectResult where
  | connected (node : BackendNode)
  | failed
deriving DecidableEq

def ConnectResult.code : ConnectResult → Int
  | connected _ => 0
  | failed => -1

/-- The text that the parser sees: the array has no NUL of its own. -/
def serverInfoText (reply memory : Str) : Str := cString (reply.take buffer_size ++ memory)

def ConnectCalls.connectToBackend (calls : ConnectCalls) (username : Str) :
    Option ConnectResult :=
  let command := "GET_SERVER:".toList ++ username ++ "\r\n".toList
  match calls.master_sock with
  | none => some .failed
  | some _ =>
    if calls.masterConnected = false then some .failed
    else if calls.commandSent command = false then some .failed
    else match calls.reply with
      | none => some .failed
      | some reply => do
        let ipAndPort ← extractIPAndPort (serverInfoText reply calls.memory)
        match calls.backend_sock with
        | none => return .failed
        | some backend_sock =>
          if calls.backendConnected ipAndPort.1 ipAndPort.2 = false then return .failed
          else if calls.greeted = false then return .failed
          else
            let node := { ip := ipAndPort.1, port := ipAndPort.2, socket := backend_sock }
            return .connected node

/-! ### Sending and reading -/

/-- What happens on the sockets. -/
inductive SocketEvent where
  /-- The bytes that `send` took over. -/
  | sent (socket : Int) (bytes : Str)
  | sendFailed (socket : Int)
  /-- The bytes that `recv` returned, none where the peer has closed. -/
  | received (socket : Int) (bytes : Str)
  | recvFailed (socket : Int)
  | connecting (result : ConnectResult)
deriving DecidableEq

/-- What the calls in `sendToBackendSocket` return, `none` standing for an error and a number
for the bytes that were taken over. -/
structure SendCalls where
  first : Option Nat
  reconnect : ConnectResult
  second : Option Nat

/-- The socket is read from the entry once. The condition on `connectToBackend` holds when
that returns 0. -/
def BackendNode.sendToBackendSocket (node : BackendNode) (command : Str) (calls : SendCalls) :
    Bool × List SocketEvent :=
  let backend_sock := node.socket
  match calls.first with
  | some n => (true, [.sent backend_sock (command.take n)])
  | none =>
    let events := [.sendFailed backend_sock, .connecting calls.reconnect]
    if calls.reconnect.code = 0 then (false, events)
    else match calls.second with
      | some n => (true, events ++ [.sent backend_sock (command.take n)])
      | none => (false, events ++ [.sendFailed backend_sock])

/-- What the calls in one pass of the loop of `readFromBackendSocket` return. -/
inductive ReadPass where
  | received (piece : Str) (nonempty : piece ≠ [])
  | closed
  /-- The connection is opened again after an error. -/
  | failed (reconnect : ConnectResult)

/-- What a pass appends to the response. -/
def ReadPass.bytes : ReadPass → Str
  | received piece _ => piece
  | closed => []
  | failed _ => []

/-- How far the loop gets with some passes: what it returns, if it does. -/
def readPasses (backend_sock : Int) : Str → List ReadPass → Option Str × List SocketEvent
  | _, [] => (none, [])
  | response, .failed reconnect :: passes =>
    let events := [.recvFailed backend_sock, .connecting reconnect]
    if reconnect.code = 0 then (some [], events)
    else
      let rest := readPasses backend_sock response passes
      (rest.1, events ++ rest.2)
  | response, pass :: passes =>
    let response := response ++ pass.bytes
    let event := .received backend_sock pass.bytes
    if (findStr "\r\n".toList response).isSome then (some response, [event])
    else
      let rest := readPasses backend_sock response passes
      (rest.1, event :: rest.2)

def BackendNode.readFromBackendSocket (node : BackendNode) (passes : List ReadPass) :
    Option Str × List SocketEvent :=
  readPasses node.socket [] passes

end CloudStorage
