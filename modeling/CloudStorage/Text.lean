import CloudStorage.Lib.DelimitedText
import Mathlib.Algebra.Group.Int.Defs
import Mathlib.Algebra.Group.Nat.Defs

/-!
# Command text

The strings of the storage server and the functions of `kvstore.cc` that cut them up.
A C++ `char` is a `Char`, and a string the list of its characters.
-/

namespace CloudStorage
open DelimitedText

abbrev Str := List Char

/-- `s.find(c) + 1` as the source uses it: `npos + 1` wraps to 0. -/
def posAfter (c : Char) (s : Str) : Nat :=
  if c ∈ s then s.idxOf c + 1 else 0

/-- The command word up to its blank, in upper case, and the parameters between commas. -/
def splitKVStoreCommand (command : Str) : List Str :=
  let pos := posAfter ' ' command
  (command.take pos).map Char.toUpper :: getlines ',' (command.drop pos)

/-- `str.find(pattern) != npos`. -/
def contains (pattern : Str) : Str → Bool
  | [] => pattern.isEmpty
  | c :: s => pattern.isPrefixOf (c :: s) || contains pattern s

/-- `str.rfind(pattern)`. -/
def rfind (pattern : Str) : Str → Option Nat
  | [] => if pattern = [] then some 0 else none
  | c :: s =>
    match rfind pattern s with
    | some k => some (k + 1)
    | none => if pattern.isPrefixOf (c :: s) then some 0 else none

/-- `to_string(n)`. -/
def toStr (n : Int) : Str :=
  if n < 0 then '-' :: Nat.toDigits 10 n.natAbs else Nat.toDigits 10 n.natAbs

/-- The complete commands of a text that arrives in one piece: it is cut at each CR LF. -/
def commandLines : Str → Str → List Str
  | _, [] => []
  | command, '\r' :: '\n' :: s => command :: commandLines [] s
  | command, ch :: s => commandLines (command ++ [ch]) s

/-- `s.find(c, pos)`. -/
def find (c : Char) (pos : Nat) (s : Str) : Option Nat :=
  if c ∈ s.drop pos then some (pos + (s.drop pos).idxOf c) else none

/-- `s.substr(0, s.find(c))`. -/
def before (c : Char) (s : Str) : Str := s.takeWhile (· ≠ c)

/-- `s.substr(s.find(c) + 1)`: without a `c` the sum wraps to 0. -/
def after (c : Char) (s : Str) : Str := s.drop (posAfter c s)

/-- `s.substr(s.find(c) + 1, s.find(d) - s.find(c) - 1)`: where `d` is missing or comes
first, the length wraps and the rest of the text is taken. -/
def between (c d : Char) (s : Str) : Str :=
  match find d 0 s with
  | some q => if q < posAfter c s then after c s else (after c s).take (q - posAfter c s)
  | none => after c s

def isSpace (ch : Char) : Bool := ch ∈ [' ', '\t', '\n', '\x0b', '\x0c', '\r']

/-- `stoi(s)`, nothing where it throws. -/
def stoi (s : Str) : Option Int :=
  let s := s.dropWhile isSpace
  let negative := s.head? = some '-'
  let digits := (if negative ∨ s.head? = some '+' then s.tail else s).takeWhile Char.isDigit
  let n : Int := Nat.ofDigitChars 10 digits 0
  let n := if negative then -n else n
  if digits ≠ [] ∧ -2 ^ 31 ≤ n ∧ n < 2 ^ 31 then some n else none

end CloudStorage
