import Periscope.Proofs.Channel.Framing
import Periscope.Proofs.Json.Envelope

/-!
# What receiving tells

A reply is received exactly if the bytes begin with a whole frame whose text is one document of a
reply. Otherwise the error tells why, but its kind does not always: a text that ends inside a value
is reported like a stream that ended too early, although the frame is whole.
-/

namespace Periscope

variable {α : Type}

/-! ## Documents of replies -/

/-- A document of a reply: an object with blanks behind it, whose one member says whether the value
of the probe or its failure follows. -/
inductive Reply.Document (value : Json.Decoder α) (input : Json.Input) : Reply α → Prop where
  /-- The probe has a value. -/
  | ok {x : α} {blanks : List Char} (hblanks : Json.Blank blanks)
      (hvalue : Json.OneMember "Ok" (value (Json.depthLimit - 1)) input x (blanks.map some)) :
      Document value input (.ok x)
  /-- The probe has failed. -/
  | error {failure : ProbeError} {blanks : List Char} (hblanks : Json.Blank blanks)
      (hfailure : Json.OneMember "Err" (ProbeError.decoder (Json.depthLimit - 1)) input failure
        (blanks.map some)) : Document value input (.error failure)

namespace Stream

/-- The arrivals in front of the first empty piece. -/
def beforeEmpty : List Arrival → List Arrival
  | [] => []
  | .interrupted :: rest => .interrupted :: beforeEmpty rest
  | .bytes piece :: rest => if piece.size = 0 then [] else .bytes piece :: beforeEmpty rest

/-- How a stream ends, if not by an empty piece. -/
def endOf (ending : StreamEnd) : List Arrival → StreamEnd
  | [] => ending
  | .interrupted :: rest => endOf ending rest
  | .bytes piece :: rest => if piece.size = 0 then .closed else endOf ending rest

/-- A stream as far as it is read. An empty piece is the end of the file. -/
def untilEnd (s : Stream) : Stream := ⟨beforeEmpty s.arrivals, endOf s.ending s.arrivals⟩

/-- The bytes of a stream, as far as it is read. -/
def bytes (s : Stream) : ByteArray := content s.untilEnd.arrivals

/-- Two ways to take bytes have taken the same, and what is left has the same end; or both found
the stream ended in the same way. -/
private inductive Alike (ending last : StreamEnd) :
    Except StreamEnd ByteArray × List Arrival → Except StreamEnd ByteArray × List Arrival →
      Prop where
  /-- The bytes sufficed. -/
  | ok {taken : ByteArray} {rest : List Arrival} (hlast : endOf ending rest = last) :
      Alike ending last (.ok taken, rest) (.ok taken, beforeEmpty rest)
  /-- They did not. -/
  | error {found : StreamEnd} {rest rest' : List Arrival} :
      Alike ending last (.error found, rest) (.error found, rest')

variable {s : Stream} {front back : ByteArray} {count : Nat}

end Stream

/-! ## What the bytes tell -/

namespace Frame

end Frame

section Receiving

variable {value : Json.Decoder α} {s : Stream} {text back : ByteArray} {size : Nat}

end Receiving

end Periscope
