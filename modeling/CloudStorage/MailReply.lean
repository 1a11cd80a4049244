import CloudStorage.BackendSocket
import CloudStorage.RelayQueue

/-!
# The reply to a mail

What `handle_connection` of `smtpServer.cc` does with a mail when its body has been read: the
loops over the local and over the relayed recipients, and the reply. What the system calls
return is a parameter; where the source throws or waits for ever, nothing results.
-/

namespace CloudStorage.MailServer

/-! ### One connection to a storage server -/

/-- The socket, or -1 after an error. -/
def connectToBackend (calls : ConnectCalls) (username : Str) : Option Int :=
  let command := "GET_SERVER:".toList ++ username ++ "\r\n".toList
  match calls.master_sock with
  | none => some (-1)
  | some _ =>
    if calls.masterConnected = false then some (-1)
    else if calls.commandSent command = false then some (-1)
    else match calls.reply with
      | none => some (-1)
      | some reply => do
        let serverInfo := cString (reply.take 1024 ++ calls.memory)
        let ipAndPort ← extractIPAndPort serverInfo
        match calls.backend_sock with
        | none => return -1
        | some backend_sock =>
          if calls.backendConnected ipAndPort.1 ipAndPort.2 = false then return -1
          else if calls.greeted = false then return -1
          else return backend_sock

/-- What the calls for one local recipient return. -/
structure DeliveryCalls where
  connect : ConnectCalls
  /-- Whether `send` takes the command. -/
  sent : Bool
  /-- What `recv` returns one time after the other, `none` standing for an error and no bytes
  for a connection that the peer has closed. -/
  received : List (Option Str)

/-- No call succeeds on the socket -1. -/
def sendToBackendSocket (backend_sock : Int) (sent : Bool) : Bool :=
  decide (0 ≤ backend_sock) && sent

/-- The loop goes on when the peer has closed. -/
def readResponse : Str → List (Option Str) → Option Str
  | _, [] => none
  | _, none :: _ => some []
  | response, some bytes :: received =>
    let response := response ++ bytes
    if (findStr "\r\n".toList response).isSome then some response
    else readResponse response received

def readFromBackendSocket (backend_sock : Int) (received : List (Option Str)) : Option Str :=
  if backend_sock < 0 then some [] else readResponse [] received

/-! ### The loops over the recipients -/

/-- What the calls in the loops return, by the recipient. -/
structure MailCalls where
  rawtime : Str → Nat
  backend : Str → DeliveryCalls
  mqueueOpened : Str → Bool
  mqueueLocked : Str → Bool

/-- What is done with a mail: a PUT, with what became of it, or an entry of the queue file. -/
inductive DeliveryEvent where
  | put (recipient_email command : Str) (sent : Bool) (response : Str)
  | queued (recipient_email entry : Str)
deriving DecidableEq

/-- A turn of the loop over the local recipients. -/
def MailCalls.deliver (calls : MailCalls) (b : Base64) (strftime : Nat → Str) (mailFrom : Str)
    (email_content recipient_email : Str) : Option DeliveryEvent := do
  let backend := calls.backend recipient_email
  let username := before '@' recipient_email
  let backend_socket_curr ← connectToBackend backend.connect username
  let encodedEmail := b.encode email_content
  let encodedTime := b.encode (strftime (calls.rawtime recipient_email))
  let command := "PUT ".toList ++ username ++ ",/emails/".toList ++ mailFrom ++ "/".toList ++
    encodedTime ++ ",".toList ++ encodedEmail ++ "\r\n".toList
  let sent := sendToBackendSocket backend_socket_curr backend.sent
  let response ← readFromBackendSocket backend_socket_curr backend.received
  return .put recipient_email command sent response

/-- `success` is set whatever the response is. -/
def localLoop (deliver : Str → Option DeliveryEvent) :
    List Str → Bool → Option (Bool × List DeliveryEvent)
  | [], success => some (success, [])
  | recipient_email :: rcptTo, _ => do
    let event ← deliver recipient_email
    let rest ← localLoop deliver rcptTo true
    return (rest.1, event :: rest.2)

def MailCalls.relayLoop (calls : MailCalls) (mailFrom email_content : Str) :
    List Str → Bool → Bool × List DeliveryEvent
  | [], success => (success, [])
  | recipient_email :: rcptToRelay, success =>
    if calls.mqueueOpened recipient_email = false then
      calls.relayLoop mailFrom email_content rcptToRelay success
    else if calls.mqueueLocked recipient_email = false then
      calls.relayLoop mailFrom email_content rcptToRelay success
    else
      let entry := appendEntry ⟨mailFrom, recipient_email, email_content⟩
      let rest := calls.relayLoop mailFrom email_content rcptToRelay true
      (rest.1, .queued recipient_email entry :: rest.2)

/-! ### The reply -/

def emailSent : Str := "250 OK : Email Sent\r\n".toList

def transferFailed : Str := "554 Data Transfer Failed, restart process again\r\n".toList

/-- The reply to a mail, and what was done with the mail before. -/
def MailCalls.finish (calls : MailCalls) (b : Base64) (strftime : Nat → Str) (t : Transaction)
    (email_content : Str) : Option (Str × List DeliveryEvent) := do
  let delivered ←
    localLoop (calls.deliver b strftime t.mailFrom email_content) t.rcptTo false
  let relayed :=
    if relay then calls.relayLoop t.mailFrom email_content t.rcptToRelay delivered.1
    else (delivered.1, [])
  return (if relayed.1 then emailSent else transferFailed, delivered.2 ++ relayed.2)

end CloudStorage.MailServer
