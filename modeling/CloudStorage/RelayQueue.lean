import CloudStorage.Lib.Runs
import CloudStorage.MailServer

/-!
# The relay queue

The file `mqueue`: `handle_connection` of `smtpServer.cc` appends mails to it, and each run of
`smtpec` reads it, tries to deliver what it finds and writes back the rest.
-/

namespace CloudStorage
open DelimitedText

/-- A mail for a recipient elsewhere. -/
structure EmailInfo where
  senderEmail : Str
  recipient : Str
  content : Str
deriving DecidableEq

/-! ### The text of the file -/

def emailStart : Str := "From <".toList

def toStart : Str := "To <".toList

/-- The loop of `smtpServer` over the relayed recipients: `%s` stops at a NUL. -/
def appendEntry (email : EmailInfo) : Str :=
  emailStart ++ email.senderEmail ++ ">\n".toList ++ toStart ++ email.recipient ++
    ">\n".toList ++ cString email.content

/-- What `smtpec` writes for a mail that was not sent. -/
def unsentEntry (email : EmailInfo) : Str :=
  emailStart ++ email.senderEmail ++ ">\r\n".toList ++ toStart ++ email.recipient ++
    ">\r\n".toList ++ email.content

/-- The variables of `buildEmailInfo`. -/
structure Parse where
  emails : List EmailInfo := []
  inEmail : Bool := false
  senderEmail : Str := []
  recipient : Str := []
  content : Str := []

/-- `emails.push_back(email)`, in an email. -/
def Parse.saved (p : Parse) : List EmailInfo :=
  if p.inEmail then p.emails ++ [⟨p.senderEmail, p.recipient, p.content⟩] else p.emails

/-- The text from behind the first `start` to the first `>` of the line, or to its end where
that comes first. -/
def bracketed (start line : Str) : Str :=
  let pos := ((findStr start line).getD 0) + start.length
  match find '>' 0 line with
  | some toEnd => if toEnd < pos then line.drop pos else (line.drop pos).take (toEnd - pos)
  | none => line.drop pos

/-- A line without its end; `strstr` and `+=` see it up to a NUL. The last test of the loop
looks for a line end in it and never holds. -/
def Parse.line (p : Parse) (line : Str) : Parse :=
  let line := cString line
  if contains emailStart line then
    { p with
      emails := p.saved
      content := if p.inEmail then [] else p.content
      inEmail := true
      senderEmail := bracketed emailStart line }
  else if contains toStart line then
    { p with recipient := bracketed toStart line }
  else if p.inEmail then { p with content := p.content ++ line ++ "\n".toList }
  else p

/-- `getline` with room for 4096 bytes fails at a longer line, which ends the loop. -/
def buildEmailInfo (file : Str) : List EmailInfo :=
  (((getlines '\n' file).takeWhile (fun line => line.length < 4096)).foldl Parse.line {}).saved

/-! ### Processes at the file -/

/-- What one write puts at the end of the file: the text of a mail, or its beginning or its
end, where the text does not fit into the buffer of the stream. -/
inductive Part where
  | whole (mail : Nat)
  | head (mail : Nat)
  | tail (mail : Nat)
deriving DecidableEq

/-- A mail as `smtpec` reads it, by the writes that its text comes from. -/
abbrev Entry := List Part

/-- The mails of a file. What stands before the first one belongs to none. -/
def entriesFrom : Option Entry → List Part → List Entry
  | entry, [] => entry.toList
  | entry, .whole i :: file => entry.toList ++ entriesFrom (some [.whole i]) file
  | entry, .head i :: file => entry.toList ++ entriesFrom (some [.head i]) file
  | entry, .tail i :: file => entriesFrom (entry.map (· ++ [.tail i])) file

def entries (file : List Part) : List Entry := entriesFrom none file

/-- How far an append of the mail server is. -/
inductive AppendStage where
  | idle
  | opened
  | locked
  | printed
  | unlocked
  | closed
deriving DecidableEq

/-- How far a run of `smtpec` is, with the mails it still has to try and those it could not
deliver. -/
inductive RunStage where
  | idle
  | locked
  | delivering (todo unsent : List Entry)
  | truncated (unsent : List Entry)
  | written
  | finished
deriving DecidableEq

def RunStage.unsent : RunStage → List Entry
  | .delivering todo unsent => unsent ++ todo
  | .truncated unsent => unsent
  | _ => []

/-- The mail server that appends mail `i`, or the run `k` of `smtpec`. -/
inductive Process where
  | append (i : Nat)
  | run (k : Nat)
deriving DecidableEq

structure Queue where
  file : List Part := []
  holder : Option Process := none
  append : Nat → AppendStage := fun _ => .idle
  run : Nat → RunStage := fun _ => .idle
  delivered : List Entry := []

inductive QueueStep where
  | openFile (i : Nat)
  | lockFile (i : Nat)
  | print (i : Nat)
  | unlockFile (i : Nat)
  | closeFile (i : Nat)
  | lockQueue (k : Nat)
  | readQueue (k : Nat)
  | deliver (k : Nat) (ok : Bool)
  | truncate (k : Nat)
  | writeBack (k : Nat)
  | unlockQueue (k : Nat)

namespace Queue

def setAppend (q : Queue) (i : Nat) (stage : AppendStage) : Queue :=
  { q with append := Function.update q.append i stage }

def setRun (q : Queue) (k : Nat) (stage : RunStage) : Queue :=
  { q with run := Function.update q.run k stage }

/-- `fprintf` writes only a text that does not fit into the buffer of the stream, and what is
in the buffer is written by `fclose`, behind `flock(fd, LOCK_UN)`. The mutex is held with the
lock. A run of `smtpec` leaves the file as it is if it has read no mail. -/
def next (long : Nat → Bool) (q : Queue) : QueueStep → Option Queue
  | .openFile i => if q.append i = .idle then some (q.setAppend i .opened) else none
  | .lockFile i =>
    if q.append i = .opened ∧ q.holder = none then
      some { q.setAppend i .locked with holder := some (.append i) }
    else none
  | .print i =>
    if q.append i = .locked then
      some { q.setAppend i .printed with
        file := if long i then q.file ++ [.head i] else q.file }
    else none
  | .unlockFile i =>
    if q.append i = .printed then some { q.setAppend i .unlocked with holder := none } else none
  | .closeFile i =>
    if q.append i = .unlocked then
      some { q.setAppend i .closed with
        file := q.file ++ [if long i then .tail i else .whole i] }
    else none
  | .lockQueue k =>
    if q.run k = .idle ∧ q.holder = none then
      some { q.setRun k .locked with holder := some (.run k) }
    else none
  | .readQueue k =>
    if q.run k = .locked then
      some (q.setRun k (if entries q.file = [] then .written else .delivering (entries q.file) []))
    else none
  | .deliver k ok =>
    match q.run k with
    | .delivering (entry :: todo) unsent =>
      if ok then
        some { q.setRun k (.delivering todo unsent) with delivered := q.delivered ++ [entry] }
      else some (q.setRun k (.delivering todo (unsent ++ [entry])))
    | _ => none
  | .truncate k =>
    match q.run k with
    | .delivering [] unsent => some { q.setRun k (.truncated unsent) with file := [] }
    | _ => none
  | .writeBack k =>
    match q.run k with
    | .truncated unsent => some { q.setRun k .written with file := unsent.flatten }
    | _ => none
  | .unlockQueue k =>
    if q.run k = .written then some { q.setRun k .finished with holder := none } else none

end Queue

/-- Appends and runs of `smtpec` at one file; `long` says which texts do not fit into the
buffer of a stream. -/
def relayQueue (long : Nat → Bool) : System Queue QueueStep where
  init q := q = {}
  next q step := q.next long step

end CloudStorage
