import CloudStorage.Text

/-!
# Reading commands from a connection

The outer loop of `threadFunc` at a server that stays enabled: it reads what has arrived,
at most a buffer at a time, and keeps the text of an unfinished command between reads.
-/

namespace CloudStorage

def BUFFER_SIZE : Nat := 16834

/-- What one `read` returned. -/
structure Piece where
  bytes : Str
  nonempty : bytes ≠ []
  fits : bytes.length ≤ BUFFER_SIZE

/-- The loop over one buffer: the commands it completes, and the text it keeps. A CR at the
end of the buffer is kept like any other byte, whatever comes in the next one. -/
def scanBuffer : Str → Str → List Str × Str
  | command, [] => ([], command)
  | command, '\r' :: '\n' :: buffer =>
    let (commands, rest) := scanBuffer [] buffer
    (command :: commands, rest)
  | command, ch :: buffer => scanBuffer (command ++ [ch]) buffer

/-- The commands that reach `handleCommand`, one read after another. -/
def threadFunc : Str → List Piece → List Str
  | _, [] => []
  | command, piece :: pieces =>
    let (commands, rest) := scanBuffer command piece.bytes
    commands ++ threadFunc rest pieces

/-- What the client sent. -/
def stream (pieces : List Piece) : Str := pieces.flatMap Piece.bytes

end CloudStorage
