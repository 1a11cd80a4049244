import CloudStorage.Frontend

/-!
# The mail server

`handle_connection` of `smtpServer.cc`. The commands of a connection are handled one line at
a time, but a handler looks at all text that has been received; the body of a mail is read
past the buffer of the command loop. Local recipients get the mail through the storage
server, others through the queue of the relay.
-/

namespace CloudStorage
open DelimitedText

inductive SMTPState where
  | Initial
  | HeloReceived
  | MailFromReceived
  | RcptToReceived
deriving DecidableEq

/-- `rcptTo.insert(s)`: a `set<string>` is kept in order and without duplicates. -/
def insertName (s : Str) : List Str → List Str
  | [] => [s]
  | x :: xs => if s < x then s :: x :: xs else if s = x then x :: xs else x :: insertName s xs

/-- The variables of a connection that belong to a mail. -/
structure Transaction where
  state : SMTPState := .Initial
  mailFrom : Str := []
  rcptTo : List Str := []
  rcptToRelay : List Str := []
deriving DecidableEq

/-- What a handler does: it answers, or it reads the body of a mail, or the connection ends,
or `substr` throws. -/
inductive SmtpStep where
  | replied (t : Transaction) (response : Option Str)
  | data
  | quit
  | thrown
deriving DecidableEq

/-- `relay` is set at the start and never cleared. -/
def relay : Bool := true

def badSequence : Str := "503 Bad Sequence of Commands\r\n".toList

def senderOk : Str := "250 OK : Sender ok\r\n".toList

def receiverOk : Str := "250 OK : Receiver ok\r\n".toList

def willForward : Str := "251 User not local : will forward to mqueue file\r\n".toList

/-- `caseInsensitiveStringCompare`, which compares as many characters as `str2` has. -/
def caseInsensitiveStringCompare (str1 str2 : Str) : Bool :=
  (str1.take str2.length).map Char.toLower == str2.map Char.toLower

/-- The text between the first `<` and the first `>`. -/
def addressIn (text : Str) : Option Str :=
  if '<' ∈ text ∧ '>' ∈ text ∧ text.idxOf '<' < text.idxOf '>' then
    some (before '>' (after '<' text))
  else none

/-- `s.substr(0, atPos - 1)`: the length wraps where `atPos` is 0. -/
def localPart (s : Str) (atPos : Nat) : Str := if atPos = 0 then s else s.take (atPos - 1)

def helo (text : Str) (t : Transaction) : SmtpStep :=
  if t.state ≠ .Initial ∧ t.state ≠ .HeloReceived then .replied t (some badSequence)
  else if text.drop 5 = [] ∨ text.drop 5 = "\r\n".toList then
    .replied t (some "501 Syntax error in parameters or arguments\r\n".toList)
  else .replied { t with state := .HeloReceived } (some "250 localhost\r\n".toList)

/-- The address is assigned before it is looked at. -/
def mailCommand (text : Str) (t : Transaction) : SmtpStep :=
  if t.state ≠ .HeloReceived then .replied t (some badSequence)
  else match addressIn text with
    | none => .replied t (some "501 Syntax error in parameters or arguments\r\n".toList)
    | some mailFrom =>
      let t := { t with mailFrom := mailFrom }
      match find '@' 0 mailFrom with
      | none => .replied t (some "501 Syntax Error, No @ provided\r\n".toList)
      | some atPos =>
        if localPart mailFrom atPos = [] ∨ mailFrom.drop (atPos + 1) = [] then
          .replied t (some "501 Syntax Error, local or domain part empty".toList)
        else .replied { t with state := .MailFromReceived } (some senderOk)

def isLocal (email : Str) : Bool := "@localhost".toList.isSuffixOf email

/-- The parts that are looked at are those of the sender, cut where the recipient has
its `@`. -/
def rcptCommand (text : Str) (t : Transaction) : SmtpStep :=
  if t.state ≠ .MailFromReceived ∧ t.state ≠ .RcptToReceived then .replied t (some badSequence)
  else match addressIn text with
    | none => .replied t (some "501 Syntax error in parameters or arguments\r\n".toList)
    | some email =>
      if isLocal email then
        .replied { t with
          rcptTo := insertName (before '@' email) t.rcptTo
          state := .RcptToReceived } (some receiverOk)
      else if relay then
        match find '@' 0 email with
        | none => .replied t (some "501 Syntax Error, No @ provided\r\n".toList)
        | some atPos =>
          match substr (atPos + 1) t.mailFrom with
          | none => .thrown
          | some domain =>
            if localPart t.mailFrom atPos = [] ∨ domain = [] then
              .replied t (some "501 Syntax Error, local or domain part empty".toList)
            else .replied { t with
              rcptToRelay := insertName email t.rcptToRelay
              state := .RcptToReceived } (some willForward)
      else .replied t (some "553 Requested action not taken: mailbox name not allowed\r\n".toList)

/-- After a mail, and after `RSET`. -/
def Transaction.cleared : Transaction := { state := .HeloReceived }

/-- The handler of the first line of the text. -/
def handleLine (text : Str) (t : Transaction) : SmtpStep :=
  if caseInsensitiveStringCompare text "HELO ".toList then helo text t
  else if caseInsensitiveStringCompare text "MAIL FROM:".toList then mailCommand text t
  else if caseInsensitiveStringCompare text "RCPT TO:".toList then rcptCommand text t
  else if caseInsensitiveStringCompare text "DATA\r\n".toList then
    if t.state ≠ .RcptToReceived then .replied t (some badSequence) else .data
  else if caseInsensitiveStringCompare text "RSET\r\n".toList then
    if t.state = .Initial then .replied t (some badSequence) else .replied .cleared none
  else if caseInsensitiveStringCompare text "NOOP\r\n".toList then
    if t.state = .Initial then .replied t (some badSequence)
    else .replied t (some "250 OK\r\n".toList)
  else if caseInsensitiveStringCompare text "QUIT\r\n".toList then .quit
  else .replied t (some "500 syntax error, command unrecognized\r\n".toList)

/-! ### The body of a mail -/

/-- What one `recv` of the body returned. -/
structure MailPiece where
  bytes : Str
  nonempty : bytes ≠ []
  fits : bytes.length ≤ 1024

def bytesOf (pieces : List MailPiece) : Str := pieces.flatMap MailPiece.bytes

/-- The loop that reads the body, and what it leaves unread. The end is looked for only
behind what was read last, and without pieces the connection is closed. -/
def readContent : Str → List MailPiece → Str × List MailPiece
  | email_content, [] => (email_content, [])
  | email_content, piece :: pieces =>
    let email_content := email_content ++ piece.bytes
    if "\r\n.\r\n".toList.isSuffixOf email_content then
      (email_content.take (email_content.length - 3), pieces)
    else readContent email_content pieces

/-! ### The command loop -/

/-- What leaves a connection: the answers to its commands, and its mails. The reply that
follows a mail is left out, as it says only whether there was a recipient. -/
inductive SmtpEvent where
  | exchange (text : Str) (response : Option Str)
  | mail (t : Transaction) (content : Str)
deriving DecidableEq

def startMail : Str := "354 Start mail input; end with <CRLF>.<CRLF>\r\n".toList

def quitCommand : Str := "221 Service closing transmission channel\r\n".toList

lemma length_readContent (email_content : Str) (pieces : List MailPiece) :
    (readContent email_content pieces).2.length ≤ pieces.length := by
  induction pieces generalizing email_content with
  | nil => exact Nat.le_refl _
  | cons piece pieces ih =>
    rw [readContent]
    split
    · exact Nat.le_succ _
    · exact Nat.le_succ_of_le (ih _)

/-- The loop over the lines of the buffer within the loop that fills it. A handler sees the
text up to the first NUL, and what stands behind a NUL is never reached. The body of a mail
does not go through the buffer. -/
def handleConnection (buffer : Str) (t : Transaction) (pieces : List MailPiece) :
    List SmtpEvent :=
  match _hline : findStr "\r\n".toList (cString buffer) with
  | some endOfLine =>
    match handleLine (cString buffer) t with
    | .replied t response =>
      .exchange (cString buffer) response ::
        handleConnection (buffer.drop (endOfLine + 2)) t pieces
    | .data =>
      .exchange (cString buffer) (some startMail) :: .mail t (readContent [] pieces).1 ::
        handleConnection (buffer.drop (endOfLine + 2)) .cleared (readContent [] pieces).2
    | .quit => [.exchange (cString buffer) (some quitCommand)]
    | .thrown => []
  | none =>
    match pieces with
    | [] => []
    | piece :: pieces =>
      if buffer.length + piece.bytes.length ≤ 1001 then
        handleConnection (buffer ++ piece.bytes) t pieces
      else []
termination_by (pieces.length, buffer.length)
decreasing_by
  · exact Prod.Lex.right _ (length_lineRest _hline)
  · have hrest := length_lineRest _hline
    have hunread := length_readContent [] pieces
    simp_wf
    omega
  · exact Prod.Lex.left _ _ (Nat.lt_succ_self _)

/-! ### Local recipients -/

/-- One turn of the loop over the local recipients, with the clock as it was read. -/
structure Delivery where
  mailFrom : Str
  recipient_email : Str
  email_content : Str
  rawtime : Nat
deriving DecidableEq

/-- The text of a time is made by `localtime` and `strftime`. The answer of the storage server
is not looked at. -/
def Delivery.send (b : Base64) (strftime : Nat → Str) (d : Delivery) : Web Unit := do
  let username := before '@' d.recipient_email
  let _ ← connectToBackend username
  let encodedEmail := b.encode d.email_content
  let encodedTime := b.encode (strftime d.rawtime)
  let _ ← exchange username ("PUT ".toList ++ username ++ ",/emails/".toList ++ d.mailFrom ++
    "/".toList ++ encodedTime ++ ",".toList ++ encodedEmail ++ "\r\n".toList)
  return ()

end CloudStorage
