import Periscope.Channel.Reply
import Periscope.Proofs.Json.Decoding

/-!
# Replies are read back

A failure is read back with its class and its text, whatever characters they have. A reply
is read back if its value is, with one bracket around it.
-/

namespace Periscope

open Json

variable {α : Type} {decoder : Json.Decoder α}

/-- A failure is read back. -/
theorem ProbeError.readsBack (depth : Nat) (e : ProbeError) :
    ReadsBack (depth + 1) ProbeError.decoder e.toJson e := by
  have hfills : Fills ProbeError.fields depth {}
      [("kind", .text e.kind), ("message", .text e.message)] ⟨some e.kind, some e.message⟩ :=
    .readsBack rfl rfl (text_readsBack depth e.kind)
      (.readsBack rfl rfl (text_readsBack depth e.message) (.done _))
  have hdraft : ProbeError.ofDraft ⟨some e.kind, some e.message⟩ = some e := rfl
  exact fun rest _ => record_reads hfills hdraft rest

/-- A reply with a value is read back if the value is. -/
theorem Reply.ok_readsBack {depth : Nat} {json : Json} {value : α}
    (h : ReadsBack depth decoder json value) :
    ReadsBack (depth + 1) (Reply.decoder decoder) (.object [("Ok", json)]) (.ok value) := by
  have hpayload : Reply.payload? decoder "Ok" = some fun depth => do return .ok (← decoder depth) :=
    if_pos rfl
  exact fun rest _ => variant_reads hpayload (fun rest hrest => bind_of_ok (h rest hrest)) rest

/-- A reply with a failure is read back. -/
theorem Reply.error_readsBack (depth : Nat) (e : ProbeError) :
    ReadsBack (depth + 2) (Reply.decoder decoder) (.object [("Err", e.toJson)]) (.error e) := by
  have hpayload : Reply.payload? decoder "Err" =
      some fun depth => do return .error (← ProbeError.decoder depth) := by
    simp [Reply.payload?]
  have hread := ProbeError.readsBack depth e
  exact fun rest _ => variant_reads hpayload (fun rest hrest => bind_of_ok (hread rest hrest)) rest

/-- The JSON of a reply, unless JSON cannot express its value. -/
def Reply.json? (toJson : α → Option Json) (reply : Reply α) : Option Json :=
  (Reply.inJson? toJson reply).map (Reply.toJson fun value => value)

/-- The value of a reply, if it has one, is read back from within the reply. -/
def Reply.Faithful (toJson : α → Option Json) (decoder : Json.Decoder α) (reply : Reply α) :
    Prop :=
  ∀ value json, reply = .ok value → toJson value = some json →
    Json.ReadsBack (Json.depthLimit - 1) decoder json value

/-- A reply is read back as a whole if its value is. -/
theorem Reply.readsBack {toJson : α → Option Json} {reply : Reply α} {json : Json}
    (hjson : Reply.json? toJson reply = some json)
    (hfaithful : Reply.Faithful toJson decoder reply) :
    Json.ReadsBack Json.depthLimit (Reply.decoder decoder) json reply := by
  cases reply with
  | ok value =>
    cases hvalue : toJson value with
    | none => simp [Reply.json?, Reply.inJson?, hvalue] at hjson
    | some inner =>
      obtain rfl : Json.object [("Ok", inner)] = json := by
        simpa [Reply.json?, Reply.inJson?, hvalue, Reply.toJson] using hjson
      exact Reply.ok_readsBack (hfaithful value inner rfl hvalue)
  | error failure =>
    obtain rfl : Json.object [("Err", failure.toJson)] = json := by
      simpa [Reply.json?, Reply.inJson?, Reply.toJson] using hjson
    exact Reply.error_readsBack 125 failure

end Periscope
