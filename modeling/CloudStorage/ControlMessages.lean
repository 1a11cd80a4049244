import CloudStorage.Connection
import CloudStorage.FormText
import CloudStorage.Master

/-!
# Control messages

Heartbeats and status messages as they come out of the receiver's buffer, in `recvHeartbeat`
of `master.cc` and `receiveStatus` of `kvstore.cc`.
-/

namespace CloudStorage

/-- `string message(buffer)` of a text that was sent with a NUL behind it. The receiver puts
another NUL behind what arrived, which is outside of a buffer that is full. -/
def receivedMessage (text : Str) : Option Str :=
  let sent := text ++ ['\x00']
  if sent.length < BUFFER_SIZE then some (cString sent) else none

/-- What a storage server reads from a status message. -/
def statusReceived (d : Datagram) : Option Status := do
  let message ← receivedMessage d.text
  readStatus message

/-- What the master reads from a heartbeat. -/
def heartbeatReceived (replicaGroup tcpPort : Int) : Option (Int × Int) := do
  let message ← receivedMessage (heartbeatMessage replicaGroup tcpPort)
  readHeartbeat message

end CloudStorage
