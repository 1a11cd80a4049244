import CloudStorage.Lib.Conversation
import CloudStorage.RelayQueue

/-!
# Delivery to other mail servers

`attemptDelivery` and `main` of `smtpec.cc`. What the resolver and the sockets return is an
answer to the program. Where the source throws, or reads through a null pointer, the program
stops. A call that does not return has no answer: it waits for ever, or a signal ends the
process, as at a `send` to a closed connection.
-/

namespace CloudStorage.Smtpec
open DelimitedText

/-- What `smtpec` asks of the resolver and of its socket. -/
inductive Call where
  | getMxRecordsForDomain (domain : Str)
  | gethostbyname (name : Str)
  | socket
  | connect (address : Str)
  | send (text : Str)
  | recv
deriving DecidableEq

/-- The records as text; the address of a host, if it has one; whether a call succeeds; the
bytes received, none after an error. -/
abbrev Call.Answer : Call → Type
  | .getMxRecordsForDomain _ => List Str
  | .gethostbyname _ => Option Str
  | .socket => Bool
  | .connect _ => Bool
  | .send _ => Bool
  | .recv => Option Str

abbrev Program := Dialogue Call Call.Answer

def call (c : Call) : Program c.Answer := Dialogue.question c

/-! ### Replies -/

/-- `regex_match(str, regex(code + ".*\\r\\n"))`: the dot stands for no line break. -/
def matchesReply (code str : Str) : Bool :=
  let rest := str.drop code.length
  code.isPrefixOf str && "\r\n".toList.isSuffixOf rest &&
    (rest.take (rest.length - 2)).all (fun ch => ch ≠ '\r' && ch ≠ '\n')

def isServiceReady (str : Str) : Bool := matchesReply "220 ".toList str

def isOKResponse (str : Str) : Bool :=
  matchesReply "250 ".toList str || matchesReply "354 ".toList str

/-- `recv`, whose result becomes a `string` before it is looked at. -/
def receive (accept : Str → Bool) : Program Bool := do
  let bytes ← call .recv
  let str ← .ofOption bytes
  return str ≠ [] && accept str

/-! ### One server -/

/-- The loop over the commands. -/
def sendCommands : List Str → Program Bool
  | [] => return true
  | cmd :: commands => do
    let sent ← call (.send cmd)
    if sent then
      let ok ← receive isOKResponse
      if ok then sendCommands commands else return false
    else return false

def heloCommand (email : EmailInfo) : Str :=
  "HELO ".toList ++ after '@' email.senderEmail ++ "\r\n".toList

def mailCommand (email : EmailInfo) : Str :=
  "MAIL FROM: <".toList ++ email.senderEmail ++ ">\r\n".toList

def rcptCommand (email : EmailInfo) : Str :=
  "RCPT TO: <".toList ++ email.recipient ++ ">\r\n".toList

def commands (email : EmailInfo) : List Str :=
  [heloCommand email, mailCommand email, rcptCommand email, "DATA\r\n".toList]

/-- The text of the mail and its end. Only the last result is looked at. -/
def sendContent (email : EmailInfo) : Program Bool := do
  let _ ← call (.send email.content)
  let _ ← call (.send "\r\n".toList)
  let sent ← call (.send ".\r\n".toList)
  if sent then receive isOKResponse else return false

def attemptDelivery (email : EmailInfo) (address : Str) : Program Bool := do
  let made ← call .socket
  if made then
    let connected ← call (.connect address)
    if connected then
      let greeted ← receive isServiceReady
      if greeted then
        let taken ← sendCommands (commands email)
        if taken then sendContent email else return false
      else return false
    else return false
  else return false

/-! ### All mails -/

/-- The last word of the record without its last character, the dot. -/
def hostOf (mxServer : Str) : Option Str :=
  let lastString := (mxServer.reverse.takeWhile (· ≠ ' ')).reverse
  if lastString = [] then none else some lastString.dropLast

/-- The loop over the servers of a domain. -/
def tryServers (email : EmailInfo) : List Str → Program Bool
  | [] => return false
  | mxServer :: mxRecords => do
    let name ← .ofOption (hostOf mxServer)
    let host ← call (.gethostbyname name)
    let address ← .ofOption host
    let sent ← attemptDelivery email address
    if sent then return true else tryServers email mxRecords

def deliver (email : EmailInfo) : Program Bool := do
  let mxRecords ← call (.getMxRecordsForDomain (after '@' email.recipient))
  tryServers email mxRecords

/-- The loop over the mails: which of them were sent. -/
def deliverAll : List EmailInfo → Program (List Bool)
  | [] => return []
  | email :: emails => do
    let sent ← deliver email
    let rest ← deliverAll emails
    return sent :: rest

/-- The mails that are written back. -/
def unsent (emails : List EmailInfo) (sent : List Bool) : List EmailInfo :=
  ((emails.zip sent).filter (fun x => !x.2)).map Prod.fst

/-- The queue file afterwards. It is not written before every mail has been tried. -/
def main (mqueue : Str) : Program Str :=
  let emails := buildEmailInfo mqueue
  if emails = [] then return mqueue
  else do
    let sent ← deliverAll emails
    return (unsent emails sent).flatMap unsentEntry

end CloudStorage.Smtpec
