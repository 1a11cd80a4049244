import CloudStorage.Storage

/-!
# Storage servers that call each other

A write that reaches the primary is sent to one secondary after another, a write that
reaches a secondary is sent to the primary. The calls of the source that go over a socket
become calls of `serveCommand` at the other server, one command at a time; `outcomes`
lists how the next socket and connect calls end.
-/

namespace CloudStorage
open DelimitedText

/-- How asking for a connection ends. -/
inductive Outcome where
  | noSocket
  | refused
  | connected
deriving DecidableEq

/-- The storage servers by address, their shared files, the clock, and the outcomes of the
next connection attempts; past the end of the list they succeed. -/
structure World where
  server : Address → Server
  disk : Disk
  time : Nat
  outcomes : List Outcome

namespace World

def node (w : World) (a : Address) : Node := ⟨w.server a, w.disk⟩

def setNode (w : World) (a : Address) (n : Node) : World :=
  { w with server := Function.update w.server a n.server, disk := n.disk }

/-- A command was handled at `a`: the checkpoint that may be due is made. -/
def settle (w : World) (a : Address) (n : Node) : World :=
  w.setNode a (checkpointAfter w.time n)

def connect (w : World) : Outcome × World :=
  match w.outcomes with
  | [] => (.connected, w)
  | o :: os => (o, { w with outcomes := os })

end World

/-- What goes into the log of a dead secondary: the command before its last `,PRIMARY`. -/
def logForDead (replicaGroup tcpPort : Int) (command : Str) (d : Disk) : Disk :=
  match rfind ",PRIMARY".toList command with
  | some pos =>
    appendToFile (deadServerLogPath (storagePath replicaGroup tcpPort)) (command.take pos) d
  | none => d

/-- A call to another server: its reply and the world afterwards, or nothing if no reply
ever comes. -/
abbrev Call := Address → Str → World → Option (Str × World)

/-- The loop of `forwardToAllSecondaryServers` over the server list. -/
def forwardToAllSecondaryServers (call : Call) (replicaGroup : Int) (command : Str) :
    List ServerInfo → World → Option (Bool × World)
  | [], w => some (true, w)
  | it :: rest, w =>
    if it.isPrimary = false ∧ it.isDead = false then
      match w.connect with
      | (.noSocket, w) => some (true, w)
      | (.refused, w) => some (false, w)
      | (.connected, w) =>
        (call it.address command w).bind (fun (response, w) =>
          if contains "+OK".toList response then
            forwardToAllSecondaryServers call replicaGroup command rest w
          else some (false, w))
    else if it.isPrimary = false ∧ it.isDead = true then
      forwardToAllSecondaryServers call replicaGroup command rest
        { w with disk := logForDead replicaGroup it.tcpPort command w.disk }
    else forwardToAllSecondaryServers call replicaGroup command rest w

/-- A connection that cannot be made counts as success. -/
def forwardToPrimary (call : Call) (primary : Address) (command : Str) (w : World) :
    Option (Bool × World) :=
  match w.connect with
  | (.noSocket, w) => some (true, w)
  | (.refused, w) => some (true, w)
  | (.connected, w) =>
    (call primary command w).map (fun (response, w) => (contains "+OK".toList response, w))

/-- The commands of a text that arrive on a new connection are handled in turn; the
connection keeps the last reply in `msg`. -/
def serveLines (serve : Str → Str → World → Option (World × Str)) :
    List Str → Str → Str → World → Option (Str × World)
  | [], _, replies, w => some (replies, w)
  | command :: rest, msg, replies, w =>
    (serve msg command w).bind (fun (w, reply) =>
      serveLines serve rest reply (replies ++ reply) w)

/-- `readAndWriteFromSocket` at one end and `threadFunc` at the other: the caller waits for
at least five bytes. -/
def readAndWriteFromSocket (serve : Address → Str → Str → World → Option (World × Str)) : Call :=
  fun a text w =>
    if (w.server a).enabled then
      (serveLines (serve a) (commandLines [] text) [] [] w).bind (fun (replies, w) =>
        if 5 ≤ replies.length then some (replies, w) else none)
    else some ("-ERR Server Disabled\r\n".toList, w)

/-- One command of `threadFunc` at server `a`, whose connection last answered `msg`: the
world afterwards and the reply. Nothing results when a call never returns, when a parameter
is read that is not there, or when calls nest deeper than `depth`. -/
def serveCommand : Nat → Address → Str → Str → World → Option (World × Str)
  | 0, _, _, _, _ => none
  | depth + 1, a, msg, command, w =>
    let parameters := splitKVStoreCommand command
    let call := readAndWriteFromSocket (serveCommand depth)
    let s := w.server a
    match handleCommand parameters (classify parameters) msg (w.node a) with
    | .finished n reply => some (w.settle a n, reply)
    | .secondaries text resume =>
      (forwardToAllSecondaryServers call s.replicaGroup text s.serverList w).map
        (fun (ok, w) => (w.settle a (resume ok (w.node a)).1, (resume ok (w.node a)).2))
    | .primary text resume =>
      (forwardToPrimary call s.primaryInfo.address text w).map
        (fun (ok, w) => (w.settle a (resume ok (w.node a)).1, (resume ok (w.node a)).2))
    | .undefined => none

end CloudStorage
