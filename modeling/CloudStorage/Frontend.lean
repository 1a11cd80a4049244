import CloudStorage.FormText
import CloudStorage.Lib.Dialogue
import CloudStorage.Lib.Runs

/-!
# The frontend server

`thread_worker` of `frontendserver.cc` for one connection, with the functions of
`loginHelper.cc` and `render.cc` that it calls. A request comes as its line, its headers and
the content that they announce; the variables of the loop survive from one request to the
next. What goes out over a socket of the frontend is a question of its program, and a page
is what its HTML is made from. Where the source throws, or reads where nothing is, the
program stops.
-/

namespace CloudStorage
open DelimitedText

/-- What a connection thread asks of others. -/
inductive Action where
  /-- `connectToBackend(username, clientNum)`. -/
  | connect (username : Str)
  /-- `sendToBackendSocket` and `readFromBackendSocket`. -/
  | storage (username command : Str)
  /-- `sendToSocket(mail_sock, command)` and `readFromSocket`. -/
  | mail (command : Str)

abbrev Action.Answer : Action → Type
  | .connect _ => Bool
  | .storage _ _ => Str
  | .mail _ => Unit

abbrev Web := Dialogue Action Action.Answer

def connectToBackend (username : Str) : Web Bool :=
  Dialogue.question (Action.connect username)

def exchange (username command : Str) : Web Str :=
  Dialogue.question (Action.storage username command)

def sendMail (command : Str) : Web Unit := Dialogue.question (Action.mail command)

/-- The base64 functions of OpenSSL: decoding inverts encoding, and an encoded text has
only characters of the base64 alphabet, none for an empty text. -/
structure Base64 where
  encode : Str → Str
  decode : Str → Str
  decode_encode : ∀ s, (∀ ch ∈ s, ch.toNat < 256) → decode (encode s) = s
  encode_nil : encode [] = []
  alphabet : ∀ s, ∀ ch ∈ encode s, isalnum ch ∨ ch = '+' ∨ ch = '/' ∨ ch = '='

inductive ReplyCode where
  | NOTFOUND
  | FORBIDDEN
  | REDIRECT
  | LOGIN
  | MENU
  | MAILBOX
  | DRIVE
  | EMAIL
  | SENDEMAIL
  | FORWARD
  | DOWNLOAD
  | RENAME
  | MOVE
  | DELETE
  | NEWDIR
  | UPLOAD
  | SIGNUP
  | NEWPASS
deriving DecidableEq

/-- The variables of `thread_worker` that survive a request. -/
structure Session where
  sid : Str
  tmp_sid : Str := []
  contentType : Str := []
  reply_code : ReplyCode := .NOTFOUND
  username : Str := []
  logged_in : Bool := false
  item : Str := []
  /-- The name of the last call of `authenticate` that succeeded; no code reads it. -/
  authenticated : Option Str := none
deriving DecidableEq

inductive Method where
  | GET
  | POST
deriving DecidableEq

/-- A request: the text behind the method and its blank, the header lines up to the empty
one, and the `Content-Length` bytes that follow. A line that begins with neither method is
answered with an error and changes nothing. -/
structure Request where
  method : Method
  target : Str
  headers : List Str
  content : Str := []
  /-- The lines end at their first CR LF. -/
  lines : ∀ l ∈ target :: headers, contains "\r\n".toList l = false
  headers_ne : ∀ h ∈ headers, h ≠ []

/-- What the reply is made from. -/
inductive Page where
  | login (sid : Str)
  | redirect
  | menu (username : Str)
  | drive (username response directory : Str)
  | mailbox (username response : Str)
  | newEmail
  | email (item decodedEmail : Str)
  | error (code : ReplyCode)
  | file (filename data : Str)
deriving DecidableEq

/-! ### Request lines and headers -/

/-- The second token of the request line, and what stands behind it, if anything. -/
def urlOf (target : Str) : Option (Str × Option Str) :=
  let s := target.dropWhile (· = ' ')
  let url := s.takeWhile (· ≠ ' ')
  if url = [] then none
  else if ' ' ∈ s then some (url, some (after ' ' s)) else some (url, none)

/-- `string(strstr(url, "/mailbox") + strlen("/mailbox/"))`: for a url that ends there, the
text behind its end. -/
def mailItem (url : Str) (rest : Option Str) : Option Str :=
  match findStr "/mailbox".toList url with
  | none => some []
  | some pos =>
    match url.drop (pos + "/mailbox".length) with
    | [] => rest
    | _ :: item => some item

def Session.getLine (s : Session) (url : Str) (rest : Option Str) : Option Session :=
  if url = "/".toList then some { s with reply_code := .LOGIN }
  else if url = "/mailbox".toList then some { s with reply_code := .MAILBOX }
  else if "/drive".toList.isPrefixOf url then
    some { s with reply_code := .DRIVE, item := extractPath url }
  else if contains "/mailbox".toList url then
    (mailItem url rest).map (fun item => { s with reply_code := .EMAIL, item := item })
  else some { s with reply_code := .NOTFOUND }

def postCode (url : Str) : ReplyCode :=
  if url = "/signup".toList then .SIGNUP
  else if url = "/newpass".toList then .NEWPASS
  else if url = "/menu".toList then .MENU
  else if url = "/send-email".toList then .SENDEMAIL
  else if url = "/forward-email".toList then .FORWARD
  else if url = "/download".toList then .DOWNLOAD
  else if url = "/rename".toList then .RENAME
  else if url = "/move".toList then .MOVE
  else if url = "/delete".toList then .DELETE
  else if url = "/create-folder".toList then .NEWDIR
  else if url = "/upload-file".toList then .UPLOAD
  else .NOTFOUND

def Session.requestLine (s : Session) (r : Request) : Option Session :=
  (urlOf r.target).bind (fun (url, rest) =>
    match r.method with
    | .GET => s.getLine url rest
    | .POST => some { s with reply_code := postCode url })

/-- The text of a `Cookie` header behind `sid=`, where the line is not shorter. -/
def cookieOf (cmd : Str) : Option Str := substr "Cookie: sid=".length cmd

def Session.headerLine (s : Session) (cmd : Str) : Option Session :=
  if "Content-Type: ".toList.isPrefixOf cmd then some { s with contentType := cmd }
  else if "Cookie: ".toList.isPrefixOf cmd then
    (cookieOf cmd).map (fun sid => { s with tmp_sid := sid })
  else some s

/-! ### Pages -/

def getDrive (username directory : Str) : Web Page := do
  let response ← exchange username
    ("LIST ".toList ++ username ++ ",/content/".toList ++ directory ++ "\r\n".toList)
  return .drive username response directory

def getMailbox (username : Str) : Web Page := do
  let response ← exchange username
    ("LIST ".toList ++ username ++ ",/emails".toList ++ "\r\n".toList)
  return .mailbox username response

/-- Everything behind `delete/` is sent; without it `npos` wraps. -/
def deletedEmail (item : Str) : Option Str :=
  match findStr "delete/".toList item with
  | some pos => substr (pos + "delete/".length) item
  | none => substr ("delete/".length - 1) item

def deleteEmail (username item : Str) : Web Unit := do
  let result ← .ofOption (deletedEmail item)
  let _ ← exchange username ("DELETE ".toList ++ result ++ "\r\n".toList)
  return ()

/-- `response.substr(response.find("+OK") + 4)`. -/
def getEmailContent (emailID username : Str) : Web Str := do
  let response ← exchange username ("GET ".toList ++ emailID ++ "\r\n".toList)
  let start := match findStr "+OK".toList response with
    | some pos => pos + 4
    | none => 3
  .ofOption (substr start response)

def renderEmailPage (b : Base64) (username item : Str) : Web Page :=
  if item = "send".toList then return .newEmail
  else do
    let encodedMessage ← getEmailContent item username
    return .email item (b.decode encodedMessage)

def generateReply (b : Base64) (s : Session) : Web Page :=
  match s.reply_code with
  | .LOGIN => return .login s.sid
  | .SIGNUP => return .login s.sid
  | .NEWPASS => return .login s.sid
  | .REDIRECT => return .redirect
  | .MENU => return .menu s.username
  | .MAILBOX => getMailbox s.username
  | .EMAIL =>
    if "delete".toList.isPrefixOf s.item then do
      deleteEmail s.username s.item
      getMailbox s.username
    else renderEmailPage b s.username s.item
  | .SENDEMAIL => getMailbox s.username
  | .FORWARD => getMailbox s.username
  | .DRIVE => getDrive s.username s.item
  | .DOWNLOAD => getDrive s.username s.item
  | .RENAME => getDrive s.username s.item
  | .MOVE => getDrive s.username s.item
  | .DELETE => getDrive s.username s.item
  | .NEWDIR => getDrive s.username s.item
  | .UPLOAD => getDrive s.username s.item
  | .NOTFOUND => return .error .NOTFOUND
  | .FORBIDDEN => return .error .FORBIDDEN

/-! ### Request contents -/

def authenticate (b : Base64) (username password : Str) : Web Bool := do
  let response ← exchange username ("GET ".toList ++ username ++ ",password\r\n".toList)
  let encoded ← .ofOption (extractPassword response)
  let decodedPassword := b.decode encoded
  return decodedPassword ≠ [] ∧ password = decodedPassword

/-- The result of `connectToBackend` is ignored. -/
def Session.menu (b : Base64) (content : Str) (s : Session) : Web Session := do
  let (username, password) := parseLoginData content
  let _ ← connectToBackend username
  let ok ← authenticate b username password
  if ok then
    return { s with username := username, logged_in := true, authenticated := some username }
  else return { s with username := [], reply_code := .REDIRECT }

def Session.signup (b : Base64) (content : Str) (s : Session) : Web Session := do
  let (username, password) := parseLoginData content
  let _ ← connectToBackend username
  let _ ← exchange username
    ("PUT ".toList ++ username ++ ",password,".toList ++ b.encode password ++ "\r\n".toList)
  return { s with username := [], reply_code := .REDIRECT }

/-- The name is a variable of its own here. -/
def Session.newpass (b : Base64) (content : Str) (s : Session) : Web Session := do
  let msg_map := parseQuery content
  let username := msg_map "username".toList
  let oldpass := b.encode (urlEncode (msg_map "oldpass".toList))
  let newpass := b.encode (urlEncode (msg_map "newpass".toList))
  let _ ← connectToBackend username
  let _ ← exchange username ("CPUT ".toList ++ username ++ ",password,".toList ++ oldpass ++
    ",".toList ++ newpass ++ "\r\n".toList)
  return s

def mailMessage (username toEmail subject message : Str) : Web Unit := do
  let domain := after '@' toEmail
  let fromEmail := username ++ "@".toList ++ domain
  sendMail ("MAIL FROM:<".toList ++ fromEmail ++ ">\r\n".toList)
  sendMail ("RCPT TO:<".toList ++ toEmail ++ ">\r\n".toList)
  sendMail "DATA\r\n".toList
  sendMail ("From: <".toList ++ fromEmail ++ ">\r\nTo: <".toList ++ toEmail ++
    ">\r\nSubject: ".toList ++ subject ++ "\r\n".toList ++ message ++ "\r\n\r\n.\r\n".toList)

def Session.sendEmail (content : Str) (s : Session) : Web Unit :=
  let msg_map := parseQuery content
  mailMessage s.username (msg_map "to".toList) (msg_map "subject".toList)
    (msg_map "message".toList)

def Session.forward (b : Base64) (content : Str) (s : Session) : Web Unit := do
  let msg_map := parseQuery content
  let emailId := b.decode (msg_map "email_id".toList)
  let response ← exchange s.username ("GET ".toList ++ emailId ++ "\r\n".toList)
  let response ← .ofOption (substr 4 response)
  let (subject, message) ← .ofOption (extractSubjectAndMessage (b.decode response))
  mailMessage s.username (msg_map "to".toList) subject ("Fwd message \n".toList ++ message)

/-- `name` in the folder that the session last showed. -/
def Session.path (s : Session) (name : Str) : Str :=
  if s.item ≠ [] then s.item ++ "/".toList ++ name else name

def contentPath (fpath : Str) : Str := "/content/".toList ++ fpath

def deleteLines (username : Str) : List Str → Web Unit
  | [] => return ()
  | line :: lines => do
    if line ≠ [] then
      let _ ← exchange username
        ("DELETE ".toList ++ username ++ ",".toList ++ line ++ "\r\n".toList)
    deleteLines username lines

def Session.delete (content : Str) (s : Session) : Web Unit := do
  let fpath := s.path (parseQuery content "fileName".toList)
  let response ← exchange s.username
    ("LIST ".toList ++ s.username ++ ",".toList ++ contentPath fpath ++ "\r\n".toList)
  deleteLines s.username (getlines '\n' response)

/-- A value is read, stored again in another column, with the CR LF of the reply it came in,
and removed. -/
def moveCell (username column newColumn : Str) : Web Unit := do
  let response ← exchange username
    ("GET ".toList ++ username ++ ",".toList ++ column ++ "\r\n".toList)
  let response ← .ofOption (substr 4 response)
  let _ ← exchange username
    ("PUT ".toList ++ username ++ ",".toList ++ newColumn ++ ",".toList ++ response)
  let _ ← exchange username
    ("DELETE ".toList ++ username ++ ",".toList ++ column ++ "\r\n".toList)
  return ()

def Session.rename (content : Str) (s : Session) : Web Unit :=
  let msg_map := parseQuery content
  moveCell s.username (contentPath (s.path (msg_map "fileName".toList)))
    (contentPath (s.path (msg_map "newName".toList)))

def moveLines (username newColumn : Str) : List Str → Web Unit
  | [] => return ()
  | line :: lines => do
    if line ≠ "\r\n".toList ∧ line ≠ "\n".toList then moveCell username line newColumn
    moveLines username newColumn lines

def Session.move (content : Str) (s : Session) : Web Unit :=
  let msg_map := parseQuery content
  let fname := msg_map "fileName".toList
  let new_path := msg_map "newPath".toList
  let fpath := s.path fname
  let new_fpath := if s.item ≠ [] then new_path ++ "/".toList ++ fname else new_path
  if '.' ∉ fname then do
    let response ← exchange s.username
      ("LIST ".toList ++ s.username ++ ",".toList ++ contentPath fpath ++ "\r\n".toList)
    moveLines s.username (contentPath (new_fpath ++ "/".toList ++ fname))
      (getlines '\n' response)
  else moveCell s.username (contentPath fpath) (contentPath new_fpath)

def Session.newdir (content : Str) (s : Session) : Web Unit := do
  let dirpath := s.item ++ "/".toList ++ parseQuery content "folderName".toList
  let column := if s.item = [] then "/content".toList ++ dirpath else contentPath dirpath
  let _ ← exchange s.username ("PUT ".toList ++ s.username ++ ",".toList ++ column ++
    ",dummyData\r\n".toList)
  return ()

def Session.upload (b : Base64) (content : Str) (s : Session) : Web Session := do
  let (fdata, fname) ← .ofOption (parseMultipartFormData s.contentType content)
  let _ ← exchange s.username ("PUT ".toList ++ s.username ++ ",".toList ++
    contentPath (s.path fname) ++ ",".toList ++ b.encode fdata ++ "\r\n".toList)
  return { s with contentType := [] }

/-- The first stage of a request with content. -/
def Session.requestContent (b : Base64) (content : Str) (s : Session) : Web Session :=
  let text := cString content
  match s.reply_code with
  | .MENU => Session.menu b text s
  | .SIGNUP => Session.signup b text s
  | .NEWPASS => Session.newpass b text s
  | .SENDEMAIL => do Session.sendEmail text s; return s
  | .FORWARD => do Session.forward b text s; return s
  | .DELETE => do Session.delete text s; return s
  | .RENAME => do Session.rename text s; return s
  | .MOVE => do Session.move text s; return s
  | .NEWDIR => do Session.newdir text s; return s
  | .UPLOAD => Session.upload b content s
  | _ => return s

/-- The file goes out before `generateReply` is called, whose result is dropped. -/
def Session.download (b : Base64) (content : Str) (s : Session) : Web Page := do
  let filename := after '=' (cString content)
  let response ← exchange s.username ("GET ".toList ++ s.username ++ ",".toList ++
    contentPath (s.path filename) ++ "\r\n".toList)
  let response ← .ofOption (substr 4 response)
  let _ ← generateReply b s
  return .file filename (b.decode response)

/-! ### Requests -/

/-- The request comes with the cookie of the session, on a connection that is logged in. -/
def Session.authorised (s : Session) : Prop := s.logged_in = true ∧ s.sid = s.tmp_sid

instance (s : Session) : Decidable s.authorised := inferInstanceAs (Decidable (_ ∧ _))

/-- The access check. A redirection passes it only after a content. -/
def Session.checked (s : Session) (withContent : Bool) : Session :=
  if s.reply_code ≠ .LOGIN ∧ s.reply_code ≠ .SIGNUP ∧ s.reply_code ≠ .NEWPASS ∧
      ¬(withContent ∧ s.reply_code = .REDIRECT) ∧ ¬s.authorised then
    { s with reply_code := .FORBIDDEN }
  else s

/-- The session once the headers of the request have been read. -/
def Session.received (s : Session) (r : Request) : Option Session :=
  (s.requestLine r).bind (fun s => r.headers.foldlM Session.headerLine s)

def Session.request (b : Base64) (r : Request) (s : Session) : Web (Session × Page) := do
  let s ← .ofOption (s.received r)
  if r.content = [] then
    let s := s.checked false
    let page ← generateReply b s
    return (s, page)
  else
    let s ← Session.requestContent b r.content s
    let s := s.checked true
    let page ← if s.reply_code = .DOWNLOAD then Session.download b r.content s
      else generateReply b s
    return (s, page)

/-- A connection with the environment that answers its questions. -/
def connection {σ : Type} (b : Base64) (env : (i : Action) → σ → Option (i.Answer × σ)) :
    System (Session × σ) Request where
  init x := ∃ sid, x.1 = { sid := sid }
  next x r := ((x.1.request b r).run env x.2).map (fun y => (y.1.1, y.2))

end CloudStorage
