import Periscope.Proofs.Channel.Framing
import Periscope.Proofs.Probe.Records

/-!
# Replies cross the pipe

A reply whose text is not too long is sent as one frame. The frame is received as the reply,
however it is split and whatever is behind it, and until it is whole nothing of it passes for
a reply. A reply whose text is too long is not sent at all, so no end of the pipe sees a frame
that the other end refuses.
-/

namespace Periscope

variable {α : Type}

/-- The sink takes so many bytes and passes them on. -/
def Sink.Takes (sink : Sink) (size : Nat) : Prop :=
  sink.flushRefusal = none ∧ ∀ room, sink.room = some room → size ≤ room

/-- A sink that takes all bytes has all of them. -/
theorem Sink.write_of_takes {sink : Sink} {bytes : ByteArray} (h : sink.Takes bytes.size) :
    sink.write bytes = (.ok (), bytes) := by
  obtain ⟨hflush, hroom⟩ := h
  unfold Sink.write
  simp only [hflush]
  cases hbound : sink.room with
  | none => rfl
  | some room => exact if_neg (Nat.not_lt_of_le (hroom room hbound))

namespace Reply

/-- The text of a reply in bytes. -/
def bytes (toJson : α → Json) (reply : Reply α) : ByteArray :=
  (reply.toJson toJson).compact.toUTF8

/-- A reply gets across as one frame. -/
structure Delivered (toJson : α → Json) (decoder : Json.Decoder α) (reply : Reply α)
    (frame : ByteArray) : Prop where
  /-- The frame is what is written. -/
  written (sink : Sink) : sink.Takes frame.size → sendReply toJson reply sink = (.ok (), frame)
  /-- The reply is received in pieces of any size, and what is behind its frame is still to
  come. -/
  received (s : Stream) (behind : ByteArray) :
    Stream.Flowing s.arrivals → Stream.content s.arrivals = frame ++ behind →
      ∃ rest, receiveReply decoder s = (.result (.ok reply), ⟨rest, s.ending⟩) ∧
        Stream.content rest = behind ∧ Stream.Flowing rest
  /-- A frame that ends before its last byte is an early end of file. -/
  cutOff (s : Stream) (missing : ByteArray) :
    Stream.Flowing s.arrivals → s.ending = .closed →
      frame = Stream.content s.arrivals ++ missing → missing ≠ ByteArray.empty →
      ∃ cause, (receiveReply decoder s).1 = .result (.error cause) ∧ cause.kind = .unexpectedEof

/-- Nothing of a reply is written, whatever the sink would take. -/
def Refused (toJson : α → Json) (reply : Reply α) : Prop :=
  ∀ sink, ∃ cause, sendReply toJson reply sink = (.error cause, ByteArray.empty) ∧
    cause.kind = .invalidData

/-- A reply is delivered behind its length exactly if its text is not too long. -/
structure Crosses (toJson : α → Json) (decoder : Json.Decoder α) (reply : Reply α) : Prop where
  /-- A text of at most the greatest size is delivered. -/
  delivered : (reply.bytes toJson).size ≤ maxReplyBytes →
    Delivered toJson decoder reply (Frame.ofText (reply.bytes toJson))
  /-- A text of more than the greatest size is refused. -/
  refused : maxReplyBytes < (reply.bytes toJson).size → Refused toJson reply

variable {toJson : α → Json} {decoder : Json.Decoder α} {reply : Reply α}

private theorem toJson_readsBack
    (hvalue : ∀ value, Json.ReadsBack (Json.depthLimit - 1) decoder (toJson value) value)
    (reply : Reply α) :
    Json.ReadsBack Json.depthLimit (Reply.decoder decoder) (reply.toJson toJson) reply := by
  have hjson : Reply.json? (fun value => some (toJson value)) reply =
      some (reply.toJson toJson) := by cases reply <;> rfl
  refine Reply.readsBack hjson fun value json _ hsame => ?_
  obtain rfl := Option.some.inj hsame
  exact hvalue value

private theorem delivered_of_readsBack
    (hread : Json.ReadsBack Json.depthLimit (Reply.decoder decoder) (reply.toJson toJson) reply)
    (hsize : (reply.bytes toJson).size ≤ maxReplyBytes) :
    Delivered toJson decoder reply (Frame.ofText (reply.bytes toJson)) where
  written sink htakes := by
    have hframe : Frame.encode toJson reply = .ok (Frame.ofText (reply.bytes toJson)) :=
      if_pos hsize
    rw [sendReply, hframe]
    exact Sink.write_of_takes htakes
  received s behind hflow hcontent := by
    have hdecode : Json.decodeBytes (Reply.decoder decoder) (reply.bytes toJson) = .ok reply :=
      (decodeBytes_toUTF8 _ _).trans hread.decodeText
    obtain ⟨rest, hreceive, hrest⟩ := receiveReply_frame decoder hflow hcontent hsize
    rw [hdecode] at hreceive
    exact ⟨rest, hreceive, hrest⟩
  cutOff s missing hflow hclosed hframe hmissing := by
    have hback : missing.size ≠ 0 := fun h => hmissing (ByteArray.size_eq_zero_iff.mp h)
    have hcut := Frame.cutOff_of_front hback hsize hframe
    refine ⟨.endOfStream, ?_, rfl⟩
    rw [receiveReply_of_cutOff hflow hcut, hclosed]
    rfl

private theorem refused_of_tooLong (hsize : maxReplyBytes < (reply.bytes toJson).size) :
    Refused toJson reply := by
  intro sink
  have hencode : Frame.encode toJson reply = .error (Frame.tooLong (reply.bytes toJson).size) :=
    if_neg (Nat.not_le_of_lt hsize)
  exact ⟨_, by rw [sendReply, hencode], rfl⟩

/-- A reply crosses the pipe if all values are read back. -/
theorem crosses_of_readsBack
    (hvalue : ∀ value, Json.ReadsBack (Json.depthLimit - 1) decoder (toJson value) value)
    (reply : Reply α) : Crosses toJson decoder reply where
  delivered := delivered_of_readsBack (toJson_readsBack hvalue reply)
  refused := refused_of_tooLong

/-- Every reply of a probe crosses the pipe: the identity of an operating system, a list of
processes, or a failure. -/
theorem probe_replies_cross :
    (∀ reply : Reply OsInfo, Crosses OsInfo.replyJson OsInfo.decoder reply) ∧
      ∀ reply : Reply (List ProcessRecord),
        Crosses (fun processes => .array (processes.map ProcessRecord.replyJson))
          (Json.Decoder.list ProcessRecord.decoder) reply :=
  ⟨crosses_of_readsBack (OsInfo.readsBack 125),
    crosses_of_readsBack (ProcessRecord.list_readsBack 124)⟩

end Reply

end Periscope
