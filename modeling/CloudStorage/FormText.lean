import CloudStorage.Text
import Mathlib.Logic.Function.Basic

/-!
# Text from the browser

The functions of `loginHelper.cc` and `emailHelper.cc` that take the texts of requests and
stored emails apart. A byte is a character below 256; where the source throws, nothing
results.
-/

namespace CloudStorage
open DelimitedText

/-- `string(content)` of a C string. -/
def cString (content : Str) : Str := content.takeWhile (· ≠ '\x00')

/-- `s.find(pattern)`. -/
def findStr (pattern : Str) : Str → Option Nat
  | [] => if pattern = [] then some 0 else none
  | ch :: s =>
    if pattern.isPrefixOf (ch :: s) then some 0 else (findStr pattern s).map (· + 1)

lemma findStr_drop_lt {pattern s : Str} {pos : Nat} (hp : pattern ≠ [])
    (h : findStr pattern s = some pos) : (s.drop (pos + pattern.length)).length < s.length := by
  have hpattern := List.length_pos_iff.mpr hp
  have hne : s ≠ [] := by
    intro hs
    simp [hs, findStr, hp] at h
  have hs := List.length_pos_iff.mpr hne
  rw [List.length_drop]
  omega

lemma length_cString_le (s : Str) : (cString s).length ≤ s.length :=
  (List.takeWhile_prefix _).length_le

lemma length_lineRest {buffer : Str} {endOfLine : Nat}
    (h : findStr "\r\n".toList (cString buffer) = some endOfLine) :
    (buffer.drop (endOfLine + 2)).length < buffer.length := by
  have hlt := findStr_drop_lt (by decide) h
  have hle := length_cString_le buffer
  simp only [List.length_drop, String.length_toList] at hlt ⊢
  have htwo : "\r\n".length = 2 := by decide
  omega

/-- `s.substr(n)`. -/
def substr (n : Nat) (s : Str) : Option Str := if n ≤ s.length then some (s.drop n) else none

/-- `isalnum` in the C locale. -/
def isalnum (ch : Char) : Bool := ch.isAlphanum

/-- A byte as two upper-case hexadecimal digits. -/
def hexByte (ch : Char) : Str :=
  [Nat.digitChar (ch.toNat / 16), Nat.digitChar (ch.toNat % 16)].map Char.toUpper

def urlEncode (value : Str) : Str :=
  value.flatMap (fun ch =>
    if isalnum ch ∨ ch = '-' ∨ ch = '_' ∨ ch = '.' ∨ ch = '~' then [ch] else '%' :: hexByte ch)

def isHexDigit (ch : Char) : Bool :=
  ch.isDigit || ('a' ≤ ch && ch ≤ 'f') || ('A' ≤ ch && ch ≤ 'F')

def hexValue (ch : Char) : Nat :=
  if ch.isDigit then ch.toNat - '0'.toNat
  else if 'a' ≤ ch then ch.toNat - 'a'.toNat + 10
  else ch.toNat - 'A'.toNat + 10

/-- `is >> hex >> val`: blanks, a sign and a prefix `0x` may stand before the digits. -/
def readHex (s : Str) : Option Int :=
  let s := s.dropWhile isSpace
  let negative := s.head? = some '-'
  let s := if negative ∨ s.head? = some '+' then s.tail else s
  let s := if s.take 2 = "0x".toList ∨ s.take 2 = "0X".toList then s.drop 2 else s
  let digits := s.takeWhile isHexDigit
  let n : Int := digits.foldl (fun n ch => 16 * n + hexValue ch) 0
  if digits ≠ [] then some (if negative then -n else n) else none

/-- `static_cast<char>(val)`. -/
def byteOf (val : Int) : Char := Char.ofNat (val % 256).toNat

/-- The loop of `decodeURIComponent` with `skip` characters still to be passed over. A `%`
without digits is dropped. -/
def decodeFrom : Nat → Str → Str
  | _, [] => []
  | skip + 1, _ :: s => decodeFrom skip s
  | 0, ch :: s =>
    if ch = '%' then
      match readHex (s.take 2) with
      | some val => byteOf val :: decodeFrom 2 s
      | none => decodeFrom 0 s
    else if ch = '+' then ' ' :: decodeFrom 0 s
    else ch :: decodeFrom 0 s

def decodeURIComponent (s : Str) : Str := decodeFrom 0 s

/-- The map of `parseQuery`, where a name that is not in the map reads as empty. -/
def parseQuery (query : Str) : Str → Str :=
  (getlines '&' query).foldl (fun data pair =>
    Function.update data (decodeURIComponent (before '=' pair))
      (decodeURIComponent (after '=' pair))) (fun _ => [])

/-- The map itself, in which the last of several values of a name stands. -/
def queryMap (query : Str) : Str → Option Str :=
  (getlines '&' query).foldl (fun data pair =>
    Function.update data (decodeURIComponent (before '=' pair))
      (some (decodeURIComponent (after '=' pair)))) (fun _ => none)

/-- The user name and the password of a form, as they were sent. -/
def parseLoginData (data : Str) : Str × Str :=
  (getlines '&' data).foldl (fun (username, password) pair =>
    let key := ((getlines '=' pair)[0]?).getD []
    let value := ((getlines '=' pair)[1]?).getD []
    if key = "username".toList then (value, password)
    else if key = "password".toList then (username, value)
    else (username, password)) ([], [])

/-- The text between the first four characters and the CR LF. -/
def extractPassword (returnString : Str) : Option Str :=
  (substr 4 returnString).map (fun s =>
    match findStr "\r\n".toList s with
    | some pos => s.take pos
    | none => s)

/-- Nothing is left of a subject that is blank: `substr(npos)` throws. -/
def extractSubjectAndMessage (email : Str) : Option (Str × Str) :=
  match findStr "Subject:".toList email with
  | none => some ([], [])
  | some pos =>
    let s := email.drop (pos + "Subject:".length)
    if '\n' ∈ s then
      let subject := (before '\n' s).dropWhile (· = ' ')
      if subject = [] then none
      else some ((subject.reverse.dropWhile (· = ' ')).reverse, after '\n' s)
    else some ([], [])

/-- What follows the first `drive/`. -/
def extractPath (path : Str) : Str :=
  match findStr "drive/".toList path with
  | some pos => path.drop (pos + "drive/".length)
  | none => []

/-! ### Uploaded files -/

/-- The loop of `split`, with `skip` characters of a delimiter still to be passed over. -/
def splitFrom (delimiter : Str) : Nat → Str → Str → List Str
  | _, part, [] => if part = [] then [] else [part]
  | skip + 1, part, _ :: s => splitFrom delimiter skip part s
  | 0, part, ch :: s =>
    if delimiter.isPrefixOf (ch :: s) then
      part :: splitFrom delimiter (delimiter.length - 1) [] s
    else splitFrom delimiter 0 (part ++ [ch]) s

/-- The boundary of a `Content-Type` line, without the quotes. -/
def extractBoundary (contentType : Str) : Option Str :=
  match findStr "boundary=".toList contentType with
  | none => some []
  | some pos =>
    let boundary := contentType.drop (pos + "boundary=".length)
    if boundary.head? = some '"' then
      if boundary.tail = [] then none else some boundary.tail.dropLast
    else some boundary

/-- `headers.find(key) + key.size()`, which wraps where there is no `key`. -/
def posBehind (key headers : Str) : Nat :=
  match findStr key headers with
  | some k => k + key.length
  | none => key.length - 1

/-- `headers.substr(pos, end - pos)` from behind the first `key` to the next quote. -/
def quotedAfter (key headers : Str) : Option Str :=
  (substr (posBehind key headers) headers).map (before '"')

/-- The loop over the parts: the content and the name of the first file. A part with less
than its last CR LF behind the headers makes a vector of negative length. The name of the
field is taken out as well, and not used. -/
def fileOfParts (endDelimiter : Str) : List Str → Option (Str × Str)
  | [] => some ([], [])
  | part :: parts =>
    if part = [] ∨ part = endDelimiter then fileOfParts endDelimiter parts
    else match findStr "\r\n\r\n".toList part with
      | none => fileOfParts endDelimiter parts
      | some pos =>
        let headers := part.take pos
        if part.length < pos + 6 then none
        else if contains "filename=".toList headers then do
          let _ ← quotedAfter "name=\"".toList headers
          let filename ← quotedAfter "filename=\"".toList headers
          return ((part.drop (pos + 4)).take (part.length - pos - 6), filename)
        else fileOfParts endDelimiter parts

/-- The content and the name of the uploaded file. -/
def parseMultipartFormData (contentType body : Str) : Option (Str × Str) :=
  (extractBoundary contentType).bind (fun boundary =>
    fileOfParts ("--".toList ++ boundary ++ "--".toList)
      (splitFrom ("--".toList ++ boundary ++ "\r\n".toList) 0 [] body))

end CloudStorage
