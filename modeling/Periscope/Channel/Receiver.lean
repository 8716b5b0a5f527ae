import Periscope.Channel.Frame

/-!
# Waiting for a reply

A reader in the background receives one reply, hands it over through a channel with room for one
result, and is gone. Whoever waits looks into the channel until there is something to be found or
the time has run out. How many turns the reader takes meanwhile is not in the hands of either.
-/

namespace Periscope

/-- Where a reader in the background stands. -/
inductive ReaderStage (α : Type) where
  /-- It is reading. -/
  | reading
  /-- It has come to a result, which it has still to hand over. -/
  | holding (result : Except IoError (Reply α))
  /-- It has handed its result over and still holds its end of the channel. -/
  | finishing
  /-- It is gone, and its end of the channel with it. -/
  | gone

/-- A reader in the background and the channel that it hands its result over through. -/
structure Receiver (α : Type) where
  /-- What reading comes to. -/
  reception : Reception α
  /-- Where the reader stands. -/
  stage : ReaderStage α := .reading
  /-- The result that lies in the channel. -/
  slot : Option (Except IoError (Reply α)) := none

/-- What a wait comes to. -/
inductive Received (α : Type) where
  /-- The reply of the worker. -/
  | reply (value : Reply α)
  /-- The pipe failed, or nothing is left to wait for. -/
  | broken (cause : IoError)
  /-- Nothing arrived in time. -/
  | timedOut

/-- What a wait comes to that finds a result. -/
def Received.ofResult {α : Type} : Except IoError (Reply α) → Received α
  | .ok value => .reply value
  | .error cause => .broken cause

/-- The error of waiting for a reader that is gone. -/
def IoError.readerGone : IoError := .described .brokenPipe "reply reader exited"

namespace Receiver

variable {α : Type}

/-- Starts to read a stream. -/
def start (value : Json.Decoder α) (s : Stream) : Receiver α :=
  { reception := (receiveReply value s).1 }

/-- A turn of the reader. A stream that falls silent keeps it reading, and a reader that stops is
gone without a result. While a result lies in the channel there is no room for another. -/
def turn (r : Receiver α) : Receiver α :=
  match r.stage with
  | .reading =>
    match r.reception with
    | .result result => { r with stage := .holding result }
    | .silent => r
    | .stopped => { r with stage := .gone }
  | .holding result =>
    match r.slot with
    | none => { r with stage := .finishing, slot := some result }
    | some _ => r
  | .finishing => { r with stage := .gone }
  | .gone => r

/-- Turns of the reader. -/
def turns : Nat → Receiver α → Receiver α
  | 0, r => r
  | count + 1, r => turns count r.turn

/-- What there is to be found in the channel, and what is left then. A result comes first, even if
the reader is gone. -/
def look (r : Receiver α) : Option (Received α × Receiver α) :=
  match r.slot, r.stage with
  | some result, _ => some (.ofResult result, { r with slot := none })
  | none, .gone => some (.broken .readerGone, r)
  | none, _ => none

/-- Waits. In each pause between two looks the reader takes so many turns, and behind the last
pause the time has run out. -/
def waitThrough : List Nat → Receiver α → Received α × Receiver α
  | [], r => r.look.getD (.timedOut, r)
  | pause :: rest, r =>
    match r.look with
    | some found => found
    | none => waitThrough rest (r.turns pause)

/-- So many turns lead each reader to its end that comes to one. -/
def turnsToEnd : Nat := 3

/-- Waits. `inTime` tells whether a reader that comes to an end does so before the time
runs out. -/
def wait (r : Receiver α) (inTime : Bool) : Received α × Receiver α :=
  r.waitThrough (if inTime then [turnsToEnd] else [])

end Receiver

end Periscope
