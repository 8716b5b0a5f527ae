import Periscope.Channel.Frame
import Periscope.Proofs.Channel.Reply

/-!
# Receiving frames

Bytes begin with a frame that is read as a reply, or with something that never is, or they are
cut off before one can tell. What is received depends on this alone, however the bytes are
split into pieces.
-/

namespace Periscope

variable {α : Type}

private theorem front_append_rest {bytes : ByteArray} {count : Nat} (hcount : count ≤ bytes.size) :
    bytes.extract 0 count ++ bytes.extract count bytes.size = bytes := by
  rw [← ByteArray.extract_eq_extract_append_extract _ (Nat.zero_le _) hcount,
    ByteArray.extract_zero_size]

/-- Of two ways to split bytes, the shorter front begins the longer one. -/
private theorem split_longer {front back longer others : ByteArray}
    (h : front ++ back = longer ++ others) (hsize : front.size ≤ longer.size) :
    ∃ middle, longer = front ++ middle ∧ back = middle ++ others := by
  have hlonger := front_append_rest hsize
  have hfront : front.size = (longer.extract 0 front.size).size := by
    rw [ByteArray.size_extract]
    omega
  have hsame : front ++ back =
      longer.extract 0 front.size ++ (longer.extract front.size longer.size ++ others) := by
    rw [h, ← ByteArray.append_assoc, hlonger]
  obtain ⟨hbegin, hback⟩ := (ByteArray.append_eq_append_iff_of_size_eq_left hfront).mp hsame
  refine ⟨longer.extract front.size longer.size, ?_, hback⟩
  calc longer = longer.extract 0 front.size ++ longer.extract front.size longer.size := hlonger.symm
    _ = front ++ longer.extract front.size longer.size := by rw [← hbegin]

namespace Stream

variable {front back : ByteArray} {count : Nat} {arrivals : List Arrival}

/-- All bytes that arrive. -/
def content : List Arrival → ByteArray
  | [] => ByteArray.empty
  | .bytes piece :: rest => piece ++ content rest
  | .interrupted :: rest => content rest

/-- No piece is empty. -/
def Flowing (arrivals : List Arrival) : Prop :=
  ∀ piece, Arrival.bytes piece ∈ arrivals → piece.size ≠ 0

private theorem Flowing.tail {arrival : Arrival} (h : Flowing (arrival :: arrivals)) :
    Flowing arrivals := fun piece hpiece => h piece (List.mem_cons_of_mem _ hpiece)

/-- Bytes are taken from the front, in however many pieces they arrive. -/
theorem takeFrom_append (ending : StreamEnd) (taken : ByteArray) (hflow : Flowing arrivals)
    (hcontent : content arrivals = front ++ back) :
    ∃ rest, takeFrom ending taken front.size arrivals = (.ok (taken ++ front), rest) ∧
      content rest = back ∧ Flowing rest := by
  induction arrivals generalizing taken front with
  | nil =>
    obtain ⟨rfl, rfl⟩ := ByteArray.append_eq_empty_iff.mp hcontent.symm
    exact ⟨[], by simp [takeFrom], rfl, hflow⟩
  | cons arrival arrivals ih =>
    by_cases hzero : front.size = 0
    · obtain rfl := ByteArray.size_eq_zero_iff.mp hzero
      rw [ByteArray.empty_append] at hcontent
      exact ⟨_, by simp [takeFrom], hcontent, hflow⟩
    cases arrival with
    | interrupted =>
      obtain ⟨rest, htake, hrest⟩ := ih taken hflow.tail hcontent
      refine ⟨rest, ?_, hrest⟩
      rw [takeFrom, if_neg hzero]
      exact htake
    | bytes piece =>
      have hpiece : piece.size ≠ 0 := hflow piece List.mem_cons_self
      rw [takeFrom, if_neg hzero]
      by_cases hshort : front.size < piece.size
      · -- The piece is split, and what is left of it stays in front.
        obtain ⟨middle, rfl, rfl⟩ := split_longer hcontent.symm (Nat.le_of_lt hshort)
        have hmiddle : middle.size ≠ 0 := by
          rw [ByteArray.size_append] at hshort
          omega
        have hleft : (front ++ middle).extract front.size (front ++ middle).size = middle :=
          ByteArray.extract_append_eq_right rfl ByteArray.size_append
        refine ⟨.bytes middle :: arrivals, ?_, rfl, ?_⟩
        · simp only [if_neg hpiece, if_pos hshort, hleft, ByteArray.extract_append_eq_left]
        · intro other hother
          rcases List.mem_cons.mp hother with heq | hmem
          · cases heq
            exact hmiddle
          · exact hflow.tail other hmem
      · -- The whole piece is taken.
        obtain ⟨middle, rfl, hmiddle⟩ := split_longer hcontent (Nat.le_of_not_lt hshort)
        obtain ⟨rest, htake, hrest⟩ := ih (taken ++ piece) hflow.tail hmiddle
        refine ⟨rest, ?_, hrest⟩
        have hleft : (piece ++ middle).size - piece.size = middle.size := by
          rw [ByteArray.size_append]
          omega
        simp only [if_neg hpiece, if_neg hshort, hleft]
        rw [htake, ByteArray.append_assoc]

/-- If the bytes do not suffice, the stream ends too early. -/
theorem takeFrom_short (ending : StreamEnd) (taken : ByteArray) (hflow : Flowing arrivals)
    (hcount : (content arrivals).size < count) :
    (takeFrom ending taken count arrivals).1 = .error ending := by
  induction arrivals generalizing taken count with
  | nil =>
    have hpos : count ≠ 0 := Nat.ne_of_gt hcount
    rw [takeFrom, if_neg hpos]
  | cons arrival arrivals ih =>
    have hpos : count ≠ 0 := Nat.ne_of_gt (Nat.zero_lt_of_lt hcount)
    cases arrival with
    | interrupted =>
      rw [takeFrom, if_neg hpos]
      exact ih taken hflow.tail hcount
    | bytes piece =>
      have hpiece : piece.size ≠ 0 := hflow piece List.mem_cons_self
      rw [content, ByteArray.size_append] at hcount
      have hlong : ¬count < piece.size := by omega
      have hleft : (content arrivals).size < count - piece.size := by omega
      rw [takeFrom, if_neg hpos]
      simp only [if_neg hpiece, if_neg hlong]
      exact ih (taken ++ piece) hflow.tail hleft

variable {s : Stream}

/-- Exactly the bytes in front are taken. -/
theorem take_append (hflow : Flowing s.arrivals) (hcontent : content s.arrivals = front ++ back) :
    ∃ rest, s.take front.size = (.ok front, ⟨rest, s.ending⟩) ∧ content rest = back ∧
      Flowing rest := by
  obtain ⟨rest, htake, hrest⟩ := takeFrom_append s.ending ByteArray.empty hflow hcontent
  refine ⟨rest, ?_, hrest⟩
  rw [take, htake, ByteArray.empty_append]

/-- Bytes that are missing show how the stream ends. -/
theorem take_short (hflow : Flowing s.arrivals) (hcount : (content s.arrivals).size < count) :
    (s.take count).1 = .error s.ending := takeFrom_short s.ending ByteArray.empty hflow hcount

end Stream

theorem length_lowBytes (count n : Nat) : (lowBytes count n).length = count := by
  induction count generalizing n with
  | zero => rfl
  | succ count ih => simp [lowBytes, ih]

theorem ofLowBytes_lt (bytes : List UInt8) : ofLowBytes bytes < Nat.pow 256 bytes.length := by
  induction bytes with
  | nil => decide
  | cons byte bytes ih =>
    have hbyte := byte.toNat_lt
    have hpow : Nat.pow 256 (bytes.length + 1) = Nat.pow 256 bytes.length * 256 := rfl
    rw [ofLowBytes, List.length_cons, hpow]
    omega

/-- Bytes are those of the number that they make. -/
theorem lowBytes_ofLowBytes (bytes : List UInt8) :
    lowBytes bytes.length (ofLowBytes bytes) = bytes := by
  induction bytes with
  | nil => rfl
  | cons byte bytes ih =>
    have hbyte := byte.toNat_lt
    have hmod : (byte.toNat + 256 * ofLowBytes bytes) % 256 = byte.toNat := by omega
    have hdiv : (byte.toNat + 256 * ofLowBytes bytes) / 256 = ofLowBytes bytes := by omega
    simp [lowBytes, ofLowBytes, hmod, hdiv, ih]

namespace Frame

theorem size_header (size : Nat) : (header size).size = 8 := length_lowBytes 8 size

/-- A length is read back. -/
theorem ofLowBytes_header {size : Nat} (hsize : size < UInt64.size) :
    ofLowBytes (header size).data.toList = size := ofLowBytes_lowBytes 8 size hsize

/-- Eight bytes are a length. -/
theorem exists_header (bytes : ByteArray) (hbytes : bytes.size = 8) :
    ∃ size < UInt64.size, bytes = header size := by
  have hlength : bytes.data.toList.length = 8 := hbytes
  refine ⟨ofLowBytes bytes.data.toList, ?_, ?_⟩
  · have hlt := ofLowBytes_lt bytes.data.toList
    rw [hlength] at hlt
    exact hlt
  · have hlow := lowBytes_ofLowBytes bytes.data.toList
    rw [hlength] at hlow
    rw [header, hlow]

/-- The bytes begin with a whole frame whose text is a reply. -/
def Carries (decoder : Json.Decoder α) (bytes : ByteArray) (reply : Reply α) : Prop :=
  ∃ text rest, bytes = ofText text ++ rest ∧ text.size ≤ maxReplyBytes ∧
    Json.decodeBytes (Reply.decoder decoder) text = .ok reply

/-- The bytes begin with a length that is too great, or with a whole frame whose text is no
reply. -/
def Spoiled (decoder : Json.Decoder α) (bytes : ByteArray) : Prop :=
  (∃ size rest, bytes = header size ++ rest ∧ maxReplyBytes < size ∧ size < UInt64.size) ∨
    ∃ text rest cause, bytes = ofText text ++ rest ∧ text.size ≤ maxReplyBytes ∧
      Json.decodeBytes (Reply.decoder decoder) text = .error cause

/-- The bytes end inside the length, or inside the text that it announces. -/
def CutOff (bytes : ByteArray) : Prop :=
  bytes.size < 8 ∨ ∃ size front, bytes = header size ++ front ∧ front.size < size ∧
    size ≤ maxReplyBytes

/-- Whatever the bytes are, they carry a reply, are spoiled or are cut off. -/
theorem carries_or_spoiled_or_cutOff (decoder : Json.Decoder α) (bytes : ByteArray) :
    (∃ reply, Carries decoder bytes reply) ∨ Spoiled decoder bytes ∨ CutOff bytes := by
  by_cases hshort : bytes.size < 8
  · exact .inr (.inr (.inl hshort))
  have hlength : (bytes.extract 0 8).size = 8 := by
    rw [ByteArray.size_extract]
    omega
  obtain ⟨size, hlt, hheader⟩ := exists_header (bytes.extract 0 8) hlength
  have hbytes : bytes = header size ++ bytes.extract 8 bytes.size := by
    rw [← hheader]
    exact (front_append_rest (Nat.le_of_not_lt hshort)).symm
  generalize bytes.extract 8 bytes.size = behind at hbytes
  by_cases hgreat : maxReplyBytes < size
  · exact .inr (.inl (.inl ⟨size, behind, hbytes, hgreat, hlt⟩))
  by_cases hcut : behind.size < size
  · exact .inr (.inr (.inr ⟨size, behind, hbytes, hcut, by omega⟩))
  have hbehind := front_append_rest (Nat.le_of_not_lt hcut)
  have hsize : (behind.extract 0 size).size = size := by
    rw [ByteArray.size_extract]
    omega
  have hframe : bytes = ofText (behind.extract 0 size) ++ behind.extract size behind.size := by
    rw [ofText, hsize, ByteArray.append_assoc, hbehind]
    exact hbytes
  cases hdecode : Json.decodeBytes (Reply.decoder decoder) (behind.extract 0 size) with
  | ok reply => exact .inl ⟨reply, _, _, hframe, by omega, hdecode⟩
  | error cause => exact .inr (.inl (.inr ⟨_, _, cause, hframe, by omega, hdecode⟩))

end Frame

section Receiving

variable {decoder : Json.Decoder α} {s s' s'' : Stream} {text rest back : ByteArray} {size : Nat}

/-- A length that is too great is refused as soon as it is taken. -/
theorem receiveReply_of_great (decoder : Json.Decoder α)
    (hlength : s.take 8 = (.ok (Frame.header size), s')) (hsize : maxReplyBytes < size)
    (hlt : size < UInt64.size) :
    receiveReply decoder s = (.result (.error Frame.oversized), s') := by
  rw [receiveReply, hlength]
  simp only [Frame.ofLowBytes_header hlt, if_pos hsize]

/-- Behind a length that is not too great a text of this length is taken and decoded. -/
theorem receiveReply_of_text (decoder : Json.Decoder α)
    (hlength : s.take 8 = (.ok (Frame.header text.size), s'))
    (htext : s'.take text.size = (.ok text, s'')) (hsize : text.size ≤ maxReplyBytes) :
    receiveReply decoder s =
      (match Json.decodeBytes (Reply.decoder decoder) text with
        | .ok reply => .result (.ok reply)
        | .error cause => .result (.error (.document cause)), s'') := by
  have hlt : text.size < UInt64.size := Nat.lt_of_le_of_lt hsize (by decide)
  rw [receiveReply, hlength]
  simp only [Frame.ofLowBytes_header hlt, if_neg (Nat.not_lt_of_le hsize), htext]
  cases Json.decodeBytes (Reply.decoder decoder) text <;> rfl

/-- Without a length the end of the stream counts. -/
theorem receiveReply_of_no_length (decoder : Json.Decoder α) {ending : StreamEnd}
    (hlength : (s.take 8).1 = .error ending) : (receiveReply decoder s).1 = .ofEnd ending := by
  unfold receiveReply
  generalize s.take 8 = out at hlength
  obtain ⟨length, s'⟩ := out
  obtain rfl : length = .error ending := hlength
  rfl

/-- Without the text the end of the stream counts as well. -/
theorem receiveReply_of_no_text (decoder : Json.Decoder α) {ending : StreamEnd}
    (hlength : s.take 8 = (.ok (Frame.header size), s'))
    (htext : (s'.take size).1 = .error ending) (hsize : size ≤ maxReplyBytes) :
    (receiveReply decoder s).1 = .ofEnd ending := by
  have hlt : size < UInt64.size := Nat.lt_of_le_of_lt hsize (by decide)
  rw [receiveReply, hlength]
  simp only [Frame.ofLowBytes_header hlt, if_neg (Nat.not_lt_of_le hsize)]
  generalize s'.take size = out at htext
  obtain ⟨text, s''⟩ := out
  obtain rfl : text = .error ending := htext
  rfl

/-- A length that is too great is refused, and what is behind it is not read. -/
theorem receiveReply_oversized (decoder : Json.Decoder α) (hflow : Stream.Flowing s.arrivals)
    (hcontent : Stream.content s.arrivals = Frame.header size ++ back)
    (hsize : maxReplyBytes < size) (hlt : size < UInt64.size) :
    ∃ rest, receiveReply decoder s = (.result (.error Frame.oversized), ⟨rest, s.ending⟩) ∧
      Stream.content rest = back := by
  obtain ⟨rest, hlength, hrest, _⟩ := Stream.take_append hflow hcontent
  rw [Frame.size_header] at hlength
  exact ⟨rest, receiveReply_of_great decoder hlength hsize hlt, hrest⟩

/-- Of a whole frame the text is decoded, and exactly the frame is taken. -/
theorem receiveReply_frame (decoder : Json.Decoder α) (hflow : Stream.Flowing s.arrivals)
    (hcontent : Stream.content s.arrivals = Frame.ofText text ++ back)
    (hsize : text.size ≤ maxReplyBytes) :
    ∃ rest, receiveReply decoder s =
        (match Json.decodeBytes (Reply.decoder decoder) text with
          | .ok reply => .result (.ok reply)
          | .error cause => .result (.error (.document cause)), ⟨rest, s.ending⟩) ∧
      Stream.content rest = back ∧ Stream.Flowing rest := by
  rw [Frame.ofText, ByteArray.append_assoc] at hcontent
  obtain ⟨behind, hlength, hbehind, hflow'⟩ := Stream.take_append hflow hcontent
  obtain ⟨rest, htext, hrest⟩ := Stream.take_append (s := ⟨behind, s.ending⟩) hflow' hbehind
  rw [Frame.size_header] at hlength
  exact ⟨rest, receiveReply_of_text decoder hlength htext hsize, hrest⟩

/-- A reply that the bytes carry is received. -/
theorem receiveReply_of_carries {reply : Reply α} (hflow : Stream.Flowing s.arrivals)
    (h : Frame.Carries decoder (Stream.content s.arrivals) reply) :
    (receiveReply decoder s).1 = .result (.ok reply) := by
  obtain ⟨text, back, hcontent, hsize, hdecode⟩ := h
  obtain ⟨rest, hreceive, _⟩ := receiveReply_frame decoder hflow hcontent hsize
  rw [hreceive, hdecode]

/-- Spoiled bytes are refused, however the stream ends. -/
theorem receiveReply_of_spoiled (hflow : Stream.Flowing s.arrivals)
    (h : Frame.Spoiled decoder (Stream.content s.arrivals)) :
    ∃ cause, (receiveReply decoder s).1 = .result (.error cause) := by
  rcases h with ⟨size, back, hcontent, hsize, hlt⟩ | ⟨text, back, cause, hcontent, hsize, hdecode⟩
  · obtain ⟨rest, hreceive, _⟩ :=
      receiveReply_oversized decoder hflow hcontent hsize hlt
    exact ⟨_, by rw [hreceive]⟩
  · obtain ⟨rest, hreceive, _⟩ := receiveReply_frame decoder hflow hcontent hsize
    exact ⟨_, by rw [hreceive, hdecode]⟩

/-- Where the bytes are cut off, the end of the stream counts. -/
theorem receiveReply_of_cutOff (hflow : Stream.Flowing s.arrivals)
    (h : Frame.CutOff (Stream.content s.arrivals)) :
    (receiveReply decoder s).1 = .ofEnd s.ending := by
  rcases h with hshort | ⟨size, front, hcontent, hcut, hsize⟩
  · exact receiveReply_of_no_length decoder (Stream.take_short hflow hshort)
  · obtain ⟨behind, hlength, hbehind, hflow'⟩ := Stream.take_append hflow hcontent
    rw [Frame.size_header] at hlength
    have hmissing : (Stream.content behind).size < size := by
      rw [hbehind]
      exact hcut
    exact receiveReply_of_no_text decoder hlength
      (Stream.take_short (s := ⟨behind, s.ending⟩) hflow' hmissing) hsize

end Receiving

section Sending

variable {decoder : Json.Decoder α}

/-- The reply has a text that is not too long. -/
def Reply.Sendable (toJson : α → Option Json) (reply : Reply α) : Prop :=
  ∃ json, Reply.json? toJson reply = some json ∧ json.compact.toUTF8.size ≤ maxReplyBytes

/-- The bytes of a text are decoded as the text. -/
theorem decodeBytes_toUTF8 (decoder : Json.Decoder α) (text : String) :
    Json.decodeBytes decoder text.toUTF8 = Json.decodeText decoder text := by
  have htext : String.fromUTF8? text.toUTF8 = some text := dif_pos text.isValidUTF8
  rw [Json.decodeBytes, Json.symbolsOfBytes, htext]
  rfl

/-- The frame of a reply that is read back carries the reply, whatever is behind it. -/
theorem Frame.carries_ofText {json : Json} {reply : Reply α}
    (hread : Json.ReadsBack Json.depthLimit (Reply.decoder decoder) json reply)
    (hsize : json.compact.toUTF8.size ≤ maxReplyBytes) (rest : ByteArray) :
    Frame.Carries decoder (Frame.ofText json.compact.toUTF8 ++ rest) reply := by
  refine ⟨_, rest, rfl, hsize, ?_⟩
  rw [decodeBytes_toUTF8]
  exact hread.decodeText

/-- A frame that is not yet whole is cut off. -/
theorem Frame.cutOff_of_front {text front back : ByteArray} (hback : back.size ≠ 0)
    (hsize : text.size ≤ maxReplyBytes) (hframe : Frame.ofText text = front ++ back) :
    Frame.CutOff front := by
  by_cases hshort : front.size < 8
  · exact .inl hshort
  have hheader : (header text.size).size ≤ front.size := by
    rw [size_header]
    omega
  obtain ⟨middle, rfl, rfl⟩ := split_longer hframe hheader
  refine .inr ⟨_, middle, rfl, ?_, hsize⟩
  rw [ByteArray.size_append]
  omega

end Sending

end Periscope
