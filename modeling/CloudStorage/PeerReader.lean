import CloudStorage.Connection

/-!
# Reading the reply of another server

`readFromSocket` of `kvstore.cc`. The total of what the calls of `read` returned, an error
counting as minus one, is compared with the expected number, and it is also the number of
characters that are appended from the buffer.
-/

namespace CloudStorage

/-- What one `read` returned: a number of bytes, 0, or -1. -/
inductive ReadResult where
  | received (piece : Piece)
  | closed
  | failed

def ReadResult.count : ReadResult → Int
  | received piece => piece.bytes.length
  | closed => 0
  | failed => -1

/-- The array that is read into; its first contents are arbitrary. -/
structure ReadBuffer where
  chars : Str
  length_eq : chars.length = BUFFER_SIZE

/-- A piece is put over the beginning of what is there. -/
def ReadBuffer.fill (buffer : ReadBuffer) : ReadResult → ReadBuffer
  | .received piece =>
    { chars := piece.bytes ++ buffer.chars.drop piece.bytes.length
      length_eq := by
        rw [List.length_append, List.length_drop, buffer.length_eq]
        exact Nat.add_sub_cancel' piece.fits }
  | .closed => buffer
  | .failed => buffer

/-- The variables of the loop. -/
structure PeerReader where
  buffer : ReadBuffer
  bytesRead : Int := 0
  response : Str := []

/-- The body of the loop, where the number of characters to append is one that the buffer
has. -/
def PeerReader.afterRead (s : PeerReader) (result : ReadResult) : PeerReader where
  buffer := s.buffer.fill result
  bytesRead := s.bytesRead + result.count
  response := s.response ++ (s.buffer.fill result).chars.take (s.bytesRead + result.count).toNat

/-- How far the loop gets with the results of some calls of `read`. -/
inductive Progress where
  | waiting
  | returned (response : Str) (unread : List ReadResult)
  /-- `append` is asked for a negative number of characters, and throws. -/
  | lengthError
  /-- `append` reads behind the end of the buffer. -/
  | outOfBounds

def readLoop (expectNumberOfBytesToRead : Int) : PeerReader → List ReadResult → Progress
  | s, [] => if s.bytesRead < expectNumberOfBytesToRead then .waiting else .returned s.response []
  | s, result :: results =>
    if s.bytesRead < expectNumberOfBytesToRead then
      let next := s.afterRead result
      if next.bytesRead < 0 then .lengthError
      else if (BUFFER_SIZE : Int) < next.bytesRead then .outOfBounds
      else readLoop expectNumberOfBytesToRead next results
    else .returned s.response (result :: results)

def readFromSocket (buffer : ReadBuffer) (expectNumberOfBytesToRead : Int)
    (results : List ReadResult) : Progress :=
  readLoop expectNumberOfBytesToRead { buffer := buffer } results

end CloudStorage
