import CloudStorage.Frontend
import CloudStorage.Lib.Positions

/-!
# What a page shows

The functions of `render.cc` that take the reply to a LIST, or a stored mail, apart for a
page. Positions are those of C++ strings, and where the source throws, nothing results.
-/

namespace CloudStorage
open DelimitedText Positions

/-! ### The drive -/

/-- What stands behind the last slash or backslash. -/
def getFileName (path : Str) : Str :=
  (path.reverse.takeWhile (fun ch => ch ≠ '/' ∧ ch ≠ '\\')).reverse

/-- What a line adds to `paths`, if anything. -/
def addedPath (directoryPath line : Str) : Option (Option Str) :=
  match findStr "/content/".toList line with
  | none => some none
  | some startPos => do
    let path := line.drop (startPos + 9)
    let startPos := position (findStr directoryPath path)
    let remainingText ← slice (add startPos directoryPath.length) npos path
    if directoryPath.length = 0 ∧ '/' ∉ remainingText then return some path
    else if directoryPath.length ≠ 0 ∧ '/' ∈ remainingText ∧ '/' ∉ after '/' remainingText then
      return some path
    else return none

/-- Names, and whether they are taken for folders. -/
def extractFiles (returnString directoryPath : Str) : Option (List (Str × Bool)) := do
  let paths ← (getlines '\n' returnString).mapM (addedPath directoryPath)
  return paths.reduceOption.map (fun currPath => (getFileName currPath, '.' ∉ currPath))

/-- The entries that `get_drive` returns for a reply. -/
def driveFiles (response dir_path : Str) : Option (List (Str × Bool)) :=
  (extractFiles response dir_path).map (fun files => files.filter (fun file => file.1 ≠ dir_path))

/-! ### The mailbox -/

structure Email where
  sender : Str
  epochTime : Str
  id : Str
deriving DecidableEq

/-- The entry for a line that begins with `/emails/`. -/
def emailOfLine (username line : Str) : Option Email := do
  let pos1 := position (find '/' 8 line)
  let pos2 := position (find ',' (add pos1 1) line)
  let sender ← slice 8 (sub pos1 8) line
  let epochTime ← slice (add pos1 1) (sub (sub pos2 pos1) 1) line
  let rest ← slice (add pos2 2) (sub (sub line.length pos2) 2) line
  return { sender := sender, epochTime := epochTime, id := username ++ ",/".toList ++ rest }

/-- The loop of `extractEmails` over the lines. -/
def emailsOfLines (username : Str) : List Str → Option (List Email)
  | [] => some []
  | line :: lines =>
    if line = [] then emailsOfLines username lines
    else if line.take 8 ≠ "/emails/".toList then emailsOfLines username lines
    else do
      let e ← emailOfLine username line
      let emails ← emailsOfLines username lines
      return e :: emails

def extractEmails (username returnString : Str) : Option (List Email) :=
  emailsOfLines username (getlines '\n' returnString)

/-! ### A mail -/

/-- What `renderEmailPage` shows of a mail. -/
structure EmailView where
  sender : Str := []
  subject : Str := []
  body : Str := []
deriving DecidableEq

def EmailView.addLine (v : EmailView) (emailLine : Str) : Option EmailView :=
  if "From:".toList.isPrefixOf emailLine then
    match find '<' 0 emailLine, find '>' 0 emailLine with
    | some start, some finish =>
      (slice (add start 1) (sub (sub finish start) 1) emailLine).map
        (fun sender => { v with sender := sender })
    | _, _ => some v
  else if "Subject:".toList.isPrefixOf emailLine then
    (slice 9 npos emailLine).map (fun subject => { v with subject := subject })
  else if "To:".toList.isPrefixOf emailLine then some v
  else some { v with body := v.body ++ emailLine ++ "<br>".toList }

/-- The loop over the lines of the decoded mail. -/
def emailView (decodedEmail : Str) : Option EmailView :=
  (getlines '\n' decodedEmail).foldlM EmailView.addLine {}

end CloudStorage
