import CloudStorage.Frontend

/-!
# Reading requests

How `thread_worker` of `frontendserver.cc` cuts the bytes of a connection into request
lines, headers and contents. Lines and contents come out of one buffer; a read adds to it,
and then either lines are taken out of it or one content.
-/

namespace CloudStorage

/-- What the loop finds in the bytes. -/
inductive HttpEvent where
  /-- The line of a request. -/
  | command (method : Method) (target : Str)
  /-- A line that is answered with `501 Not Implemented`. -/
  | unknown (cmd : Str)
  | header (cmd : Str)
  /-- The end of the headers of a request without content, which is answered. -/
  | reply
  /-- The content of a request, which is handled and answered. -/
  | content (content : Str)
deriving DecidableEq

/-- `atoi(s)`: the value of `strtol`, cut to an `int`. -/
def atoi (s : Str) : Int :=
  let s := s.dropWhile isSpace
  let negative := s.head? = some '-'
  let digits := (if negative ∨ s.head? = some '+' then s.tail else s).takeWhile Char.isDigit
  let n : Int := Nat.ofDigitChars 10 digits 0
  let n := if negative then -n else n
  Int.bmod (max (-2 ^ 63) (min n (2 ^ 63 - 1))) (2 ^ 32)

/-- The variables that say how the buffer is read. -/
structure Reader where
  read_header : Bool := false
  read_body : Bool := false
  contentlen : Int := 0
deriving DecidableEq

def contentLength : Str := "Content-Length: ".toList

/-- `contentlen` after a header. -/
def lengthAfter (contentlen : Int) (cmd : Str) : Int :=
  if contentLength.isPrefixOf cmd then atoi (cmd.drop contentLength.length) else contentlen

/-- A line of the buffer. Its method is looked at only outside of headers. -/
def Reader.line (cmd : Str) (r : Reader) : Reader × List HttpEvent :=
  if r.read_header then
    let contentlen := lengthAfter r.contentlen cmd
    if cmd = [] then
      if 0 < contentlen then
        ({ read_header := false, read_body := true, contentlen := contentlen }, [])
      else ({ r with read_header := false, contentlen := contentlen }, [.reply])
    else ({ r with contentlen := contentlen }, [.header cmd])
  else if "GET ".toList.isPrefixOf cmd then
    ({ r with read_header := true }, [.command .GET (cmd.drop 4)])
  else if "POST ".toList.isPrefixOf cmd then
    ({ r with read_header := true }, [.command .POST (cmd.drop 5)])
  else (r, [.unknown cmd])

/-- The loop over the lines: `strstr` sees the buffer up to its first NUL. It goes on when a
line was the last before a content. -/
def scanLines (dataBuffer : Str) (r : Reader) : (Reader × Str) × List HttpEvent :=
  match _hline : findStr "\r\n".toList (cString dataBuffer) with
  | none => ((r, dataBuffer), [])
  | some cmdLen =>
    let x := r.line (dataBuffer.take cmdLen)
    let y := scanLines (dataBuffer.drop (cmdLen + 2)) x.1
    (y.1, x.2 ++ y.2)
termination_by dataBuffer.length
decreasing_by exact length_lineRest _hline

/-- One read. In the comparison with the size of the buffer `contentlen` is unsigned. What
stands behind a content stays for the next read. -/
def Reader.read (bytes : Str) (x : Reader × Str) : (Reader × Str) × List HttpEvent :=
  let dataBuffer := x.2 ++ bytes
  if x.1.read_body then
    let contentlen := (x.1.contentlen % 2 ^ 64).toNat
    if dataBuffer.length < contentlen then ((x.1, dataBuffer), [])
    else (({ x.1 with read_body := false, contentlen := 0 }, dataBuffer.drop contentlen),
      [.content (dataBuffer.take contentlen)])
  else scanLines dataBuffer x.1

/-- All reads of a connection. -/
def readPieces : List Str → Reader × Str → List HttpEvent
  | [], _ => []
  | bytes :: pieces, x =>
    let y := Reader.read bytes x
    y.2 ++ readPieces pieces y.1

/-! ### What the session makes of it -/

def Session.commandLine (s : Session) (method : Method) (target : Str) : Option Session :=
  (urlOf target).bind (fun (url, rest) =>
    match method with
    | .GET => s.getLine url rest
    | .POST => some { s with reply_code := postCode url })

def Session.handle (b : Base64) (s : Session) : HttpEvent → Web Session
  | .command method target => .ofOption (s.commandLine method target)
  | .unknown _ => return s
  | .header cmd => .ofOption (s.headerLine cmd)
  | .reply => do
    let s := s.checked false
    let _ ← generateReply b s
    return s
  | .content content => do
    let s ← Session.requestContent b content s
    let s := s.checked true
    let _ ← if s.reply_code = .DOWNLOAD then Session.download b content s else generateReply b s
    return s

def Session.handleAll (b : Base64) (s : Session) : List HttpEvent → Web Session
  | [] => return s
  | event :: events => do
    let s ← s.handle b event
    s.handleAll b events

end CloudStorage
