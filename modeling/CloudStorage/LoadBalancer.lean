import CloudStorage.Lib.OrderedMap
import CloudStorage.Lib.Runs
import CloudStorage.RequestReader

/-!
# The load balancer

The functions of `loadbalancer.cc` that receive the heartbeats of the frontend servers, look
for servers that have stopped, and choose the server that a client is sent to.
-/

namespace CloudStorage

def ports : List Int := [20000, 20001, 20002]

def TIMEOUT_SECONDS : Int := 5

/-- The maps of the load balancer. `server_load` is read with `[]`, which finds 0 where there
is no entry. -/
structure LoadBalancer where
  server_status : OrderedMap Int Int :=
    ((OrderedMap.empty.insert 20000 0).insert 20001 0).insert 20002 0
  server_load : Int → Int := fun _ => 0
  lastHeartbeat : Int → Option Int := fun _ => none

namespace LoadBalancer

/-- A datagram that `recvfrom` returns, from a port of any machine. -/
def receiveHeartbeat (sin_port : UInt16) (buffer : Str) (time : Int) (b : LoadBalancer) :
    LoadBalancer :=
  if buffer = [] then b
  else
    let fromPort : Int := sin_port.toNat
    { lastHeartbeat := Function.update b.lastHeartbeat fromPort (some time)
      server_status := b.server_status.insert fromPort 1
      server_load := Function.update b.server_load fromPort (atoi (cString buffer)) }

/-- One turn of the loop over `ports`. -/
def checkPort (currentTime : Int) (b : LoadBalancer) (port : Int) : LoadBalancer :=
  match b.lastHeartbeat port with
  | some time =>
    if currentTime - time > TIMEOUT_SECONDS then
      { b with server_status := b.server_status.insert port 0 }
    else b
  | none => b

def checkTimeout (currentTime : Int) (b : LoadBalancer) : LoadBalancer :=
  ports.foldl (checkPort currentTime) b

/-- The loop of `choose_port`. -/
def chooseLoop (server_load : Int → Int) : List (Int × Int) → Int → Int → Int
  | [], port, _ => port
  | status :: rest, port, min_clients =>
    if status.2 ≠ 0 ∧ server_load status.1 < min_clients then
      chooseLoop server_load rest (status.1 - 10000) (server_load status.1)
    else chooseLoop server_load rest port min_clients

def choose_port (b : LoadBalancer) : Int :=
  chooseLoop b.server_load b.server_status.entries 10000 666666

end LoadBalancer

/-- What the threads of the load balancer do under its mutex. -/
inductive HeartbeatEvent where
  | received (sin_port : UInt16) (buffer : Str) (time : Int)
  | checked (currentTime : Int)

def HeartbeatEvent.apply (b : LoadBalancer) : HeartbeatEvent → LoadBalancer
  | received sin_port buffer time => b.receiveHeartbeat sin_port buffer time
  | checked currentTime => b.checkTimeout currentTime

/-- Heartbeats and checks in any order. -/
def loadBalancer : System LoadBalancer HeartbeatEvent where
  init b := b = {}
  next b e := some (e.apply b)

end CloudStorage
