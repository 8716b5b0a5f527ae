import Periscope.Channel.Reply
import Periscope.Channel.Stream
import Periscope.Json.Printer

/-!
# Frames

A reply crosses the pipe as one frame: the length of its JSON text in eight bytes, least
significant first, and then the text. Both ends refuse texts that are too long.
-/

namespace Periscope

/-- The greatest size of a reply's text in bytes. -/
def maxReplyBytes : Nat := 67108864

/-- The `count` least significant bytes of a number, least significant first. -/
def lowBytes : Nat → Nat → List UInt8
  | 0, _ => []
  | count + 1, n => UInt8.ofNat (n % 256) :: lowBytes count (n / 256)

/-- The number with the given bytes, least significant first. -/
def ofLowBytes : List UInt8 → Nat
  | [] => 0
  | b :: rest => b.toNat + 256 * ofLowBytes rest

/-- A number is read back from its bytes. -/
theorem ofLowBytes_lowBytes (count n : Nat) (h : n < Nat.pow 256 count) :
    ofLowBytes (lowBytes count n) = n := by
  induction count generalizing n with
  | zero => simp only [Nat.pow_eq, Nat.pow_zero] at h; simp only [lowBytes, ofLowBytes]; omega
  | succ count ih =>
    have hdiv : n / 256 < Nat.pow 256 count := by
      simp only [Nat.pow_eq] at h ⊢
      rw [Nat.pow_succ] at h
      omega
    have hmod : (UInt8.ofNat (n % 256)).toNat = n % 256 := by
      simp [UInt8.toNat_ofNat']
    simp only [lowBytes, ofLowBytes, ih _ hdiv, hmod]
    omega

namespace Frame

/-- The bytes of the length in front of a text. -/
def header (size : Nat) : ByteArray := ByteArray.mk (lowBytes 8 size).toArray

/-- A text behind its length. -/
def ofText (text : ByteArray) : ByteArray := header text.size ++ text

/-- The error of a reply that is too long to be sent. -/
def tooLong (size : Nat) : IoError :=
  .described .invalidData ("worker reply of " ++ toString size ++ " bytes exceeds bound")

/-- The error of a length that is too great to be right. -/
def oversized : IoError := .described .invalidData "oversized worker reply"

/-- The frame of a reply, unless its text is too long. -/
def encode {α : Type} (toJson : α → Json) (reply : Reply α) : Except IoError ByteArray :=
  let text := (reply.toJson toJson).compact.toUTF8
  if text.size ≤ maxReplyBytes then .ok (ofText text) else .error (tooLong text.size)

end Frame

/-- A place to write to. It takes `room` bytes, if that is bounded, and refuses the rest;
it may also refuse to pass on what it took. -/
structure Sink where
  /-- How many bytes are taken; without a number, all. -/
  room : Option Nat := none
  /-- The error of the first write that is refused. -/
  refusal : Option IoError := none
  /-- The error of passing on what was taken. -/
  flushRefusal : Option IoError := none

/-- The error of a sink that takes no more. -/
def IoError.sinkFull : IoError := .described .writeZero "failed to write whole buffer"

/-- Writes bytes. Returns the error, if any, and the bytes that were taken. -/
def Sink.write (sink : Sink) (bytes : ByteArray) : Except IoError Unit × ByteArray :=
  let refused (room : Nat) : Except IoError Unit × ByteArray :=
    (.error (sink.refusal.getD .sinkFull), bytes.extract 0 room)
  let taken : Except IoError Unit × ByteArray :=
    match sink.flushRefusal with
    | some cause => (.error cause, bytes)
    | none => (.ok (), bytes)
  match sink.room with
  | some room => if room < bytes.size then refused room else taken
  | none => taken

/-- Sends a reply. Nothing is written of a reply that is too long. -/
def sendReply {α : Type} (toJson : α → Json) (reply : Reply α) (sink : Sink) :
    Except IoError Unit × ByteArray :=
  match Frame.encode toJson reply with
  | .error cause => (.error cause, ByteArray.empty)
  | .ok frame => sink.write frame

/-- What reading a reply comes to: a reply or an error, or nothing at all because the
stream falls silent or the reader stops. -/
inductive Reception (α : Type) where
  /-- A reply, or why there is none. -/
  | result (value : Except IoError (Reply α))
  /-- The stream fell silent. -/
  | silent
  /-- The reader stopped. -/
  | stopped

/-- What a stream that ended too early comes to. -/
def Reception.ofEnd {α : Type} : StreamEnd → Reception α
  | .closed => .result (.error .endOfStream)
  | .failed cause => .result (.error cause)
  | .silent => .silent
  | .stopped => .stopped

/-- Receives a reply. A length that is too great is refused before anything behind it is
read. -/
def receiveReply {α : Type} (value : Json.Decoder α) (s : Stream) : Reception α × Stream :=
  match s.take 8 with
  | (.error ending, s) => (.ofEnd ending, s)
  | (.ok length, s) =>
    let size := ofLowBytes length.data.toList
    if maxReplyBytes < size then (.result (.error Frame.oversized), s)
    else
      match s.take size with
      | (.error ending, s) => (.ofEnd ending, s)
      | (.ok text, s) =>
        match Json.decodeBytes (Reply.decoder value) text with
        | .ok reply => (.result (.ok reply), s)
        | .error cause => (.result (.error (.document cause)), s)

end Periscope
