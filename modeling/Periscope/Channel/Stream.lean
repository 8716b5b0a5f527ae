import Periscope.IoError

/-!
# Streams of bytes

A stream arrives in pieces of any size, with interruptions in between, and then ends: it
is closed, it fails, nothing more ever comes, or its reader stops. Taking bytes joins
pieces and tries again after interruptions.
-/

namespace Periscope

/-- What one attempt to read yields. -/
inductive Arrival where
  /-- A piece of the stream. -/
  | bytes (piece : ByteArray)
  /-- The attempt was interrupted and may be repeated. -/
  | interrupted

/-- How a stream ends. -/
inductive StreamEnd where
  /-- There are no more bytes. -/
  | closed
  /-- Reading fails. -/
  | failed (cause : IoError)
  /-- Reading never returns. -/
  | silent
  /-- The reader stops. -/
  | stopped
  deriving DecidableEq

/-- What is still to come. -/
structure Stream where
  /-- What the next attempts to read yield. -/
  arrivals : List Arrival
  /-- What comes behind all of them. -/
  ending : StreamEnd

namespace Stream

/-- The number of bytes in arrivals. -/
def sizeOf : List Arrival → Nat
  | [] => 0
  | .bytes piece :: rest => piece.size + sizeOf rest
  | .interrupted :: rest => sizeOf rest

/-- The number of bytes still to come. -/
def size (s : Stream) : Nat := sizeOf s.arrivals

/-- Takes `count` more bytes onto those already taken. An empty piece is the end of the
file. If the bytes do not suffice, everything has been taken. -/
def takeFrom (ending : StreamEnd) (taken : ByteArray) (count : Nat) :
    List Arrival → Except StreamEnd ByteArray × List Arrival
  | [] => if count = 0 then (.ok taken, []) else (.error ending, [])
  | arrival :: rest =>
    if count = 0 then (.ok taken, arrival :: rest)
    else
      match arrival with
      | .interrupted => takeFrom ending taken count rest
      | .bytes piece =>
        if piece.size = 0 then (.error .closed, rest)
        else if count < piece.size then
          (.ok (taken ++ piece.extract 0 count), .bytes (piece.extract count piece.size) :: rest)
        else takeFrom ending (taken ++ piece) (count - piece.size) rest

/-- Takes exactly `count` bytes from the front. -/
def take (s : Stream) (count : Nat) : Except StreamEnd ByteArray × Stream :=
  let (result, arrivals) := takeFrom s.ending ByteArray.empty count s.arrivals
  (result, { s with arrivals })

/-- Bytes from a position on in pieces of at most `piece` bytes, at most `fuel` of
them. Where no byte fits into a piece there are none. -/
def piecesFrom (bytes : ByteArray) (piece : Nat) : Nat → Nat → List Arrival
  | 0, _ => []
  | fuel + 1, position =>
    if position < bytes.size ∧ 0 < piece then
      .bytes (bytes.extract position (position + piece)) ::
        piecesFrom bytes piece fuel (position + piece)
    else []

/-- A stream of bytes in pieces of at most `piece` bytes, after some interruptions. -/
def ofBytes (bytes : ByteArray) (piece interruptions : Nat) (ending : StreamEnd) : Stream :=
  { arrivals :=
      List.replicate interruptions .interrupted ++
        piecesFrom bytes piece bytes.size 0
    ending }

end Stream

/-- The error of a stream that was closed too early. -/
def IoError.endOfStream : IoError := .described .unexpectedEof "failed to fill whole buffer"

end Periscope
