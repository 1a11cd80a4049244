import CloudStorage.Lib.Runs

/-!
# Client connections of a frontend server

The accept loop of `main` and the way `thread_worker` takes and gives back its place: the
number of clients when the thread starts is its index into `backend_socks`. The main loop
counts a client after it created the thread, so the thread may start before that or after.
-/

namespace CloudStorage

def MAX_CLIENTS : Nat := 100

/-- Where a `thread_worker` stands. -/
inductive ClientPhase where
  /-- Created, `num_client` not yet read. -/
  | created
  /-- Serving its client. -/
  | serving (currentClientNumber : Int)
  /-- The client has gone and its socket is closed. -/
  | closed
  /-- The thread has ended. -/
  | exited
deriving DecidableEq

/-- The `currentClientNumber` of a thread that serves its client. -/
def ClientPhase.number : ClientPhase → Option Int
  | serving currentClientNumber => some currentClientNumber
  | _ => none

structure ClientThread where
  sock : Int
  phase : ClientPhase

/-- `client_socks` and `num_client`, and the threads in the order they were created. -/
structure Clients where
  clientSocks : List Int := List.replicate MAX_CLIENTS 0
  numClient : Int := 0
  /-- The main loop still has to count the client it accepted. -/
  counting : Bool := false
  threads : List ClientThread := []

inductive ClientEvent where
  | accept (fd : Int)
  | count
  | start (i : Nat)
  | close (i : Nat)
  | exit (i : Nat)
deriving DecidableEq

namespace Clients

def setPhase (s : Clients) (i : Nat) (phase : ClientPhase) : Clients :=
  { s with threads := s.threads.modify i (fun t => { t with phase := phase }) }

/-- The number of a connection that is being served. -/
def number (s : Clients) (i : Nat) : Option Int := s.threads[i]?.bind (fun t => t.phase.number)

def next (s : Clients) : ClientEvent → Option Clients
  | .accept fd =>
    if s.counting = false ∧ s.numClient < MAX_CLIENTS then
      -- a thread is created only where a place in `client_socks` is free
      if 0 ∈ s.clientSocks then
        some { s with
          clientSocks := s.clientSocks.replace 0 fd
          counting := true
          threads := s.threads ++ [⟨fd, .created⟩] }
      else some { s with counting := true }
    else none
  | .count =>
    if s.counting then some { s with numClient := s.numClient + 1, counting := false } else none
  | .start i =>
    match s.threads[i]? with
    | some ⟨_, .created⟩ => some (s.setPhase i (.serving s.numClient))
    | _ => none
  | .close i =>
    match s.threads[i]? with
    | some ⟨sock, .serving _⟩ =>
      some { s.setPhase i .closed with clientSocks := s.clientSocks.replace sock 0 }
    | _ => none
  | .exit i =>
    match s.threads[i]? with
    | some ⟨_, .closed⟩ => some { s.setPhase i .exited with numClient := s.numClient - 1 }
    | _ => none

end Clients

def clientSystem : System Clients ClientEvent where
  init := fun s => s = {}
  next := Clients.next

end CloudStorage
