import CloudStorage.Group
import CloudStorage.Lib.Runs

/-!
# Connection threads of the primary

`threadFunc` runs once for each connection, and a write waits for one secondary after
another, so several threads can be inside `forwardToAllSecondaryServers` at the same time.
A step of a thread is one message or one access to a table; no lock is taken between them.
Here every connection can be made.
-/

namespace CloudStorage
open DelimitedText

/-- Where a thread stands in the loop of `forwardToAllSecondaryServers`. -/
inductive Phase where
  /-- The rest of the server list is still to be visited. -/
  | forwarding (rest : List ServerInfo)
  /-- The command is on its way to a secondary. -/
  | sent (secondary : Address) (rest : List ServerInfo)
  /-- The response is on its way back. -/
  | replied (response : Str) (rest : List ServerInfo)
  /-- The client was answered. -/
  | answered (reply : Str)
deriving DecidableEq

/-- A thread of the primary that handles a write. -/
structure Thread where
  write : Write
  phase : Phase

def Thread.inProgress (t : Thread) : Bool :=
  match t.phase with
  | .answered _ => false
  | _ => true

/-- The thread continues in `handleCommand` with the result of the loop. -/
def Thread.resume (p : Address) (t : Thread) (ok : Bool) (w : World) : World × Thread :=
  let (n, reply) := if ok then applyWrite t.write (w.node p) else (w.node p, t.write.secondaryErr)
  (w.settle p n, { t with phase := .answered reply })

def Thread.step (p : Address) (t : Thread) (w : World) : Option (World × Thread) :=
  match t.phase with
  | .forwarding [] => some (t.resume p true w)
  | .forwarding (it :: rest) =>
    if it.isPrimary = false ∧ it.isDead = false then
      some (w, { t with phase := .sent it.address rest })
    else if it.isPrimary = false ∧ it.isDead = true then
      let d := logForDead (w.server p).replicaGroup it.tcpPort
        (t.write.tempCommand "PRIMARY".toList) w.disk
      some ({ w with disk := d }, { t with phase := .forwarding rest })
    else some (w, { t with phase := .forwarding rest })
  | .sent secondary rest =>
    (readAndWriteFromSocket (serveCommand 1) secondary
      (t.write.tempCommand "PRIMARY".toList) w).map
      (fun (response, w) => (w, { t with phase := .replied response rest }))
  | .replied response rest =>
    if contains "+OK".toList response then some (w, { t with phase := .forwarding rest })
    else some (t.resume p false w)
  | .answered _ => none

/-- The group and the threads of its primary. -/
structure Threads where
  world : World
  threads : List Thread

inductive ThreadEvent where
  /-- A client's write arrives on a connection of its own. -/
  | accept (x : Write) (command : Str)
  | step (i : Nat)

def Threads.next (p : Address) (s : Threads) : ThreadEvent → Option Threads
  | .accept x command =>
    if x.word :: x.fields <+: splitKVStoreCommand command then
      some { s with threads := s.threads ++
        [⟨x, .forwarding (s.world.server p).serverList⟩] }
    else none
  | .step i => do
    let t ← s.threads[i]?
    let (w, t) ← t.step p s.world
    return { world := w, threads := s.threads.set i t }

end CloudStorage
