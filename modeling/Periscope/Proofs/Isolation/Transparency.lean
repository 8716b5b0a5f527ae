import Periscope.Proofs.Channel.Framing
import Periscope.Proofs.Isolation.Inheritance

/-!
# Isolated calls are transparent

A call that joins its target, is granted a worker and comes back has the result of the worker's
probe, as if the probe had run in the caller. Where the probe's reply does not arrive as a whole,
the result tells whether the worker was lost or late, and never is a value.
-/

namespace Periscope

variable {σ α : Type} {timeout : Duration} {pid : Int32} {decoder : Json.Decoder α}

/-- The worker was lost before it replied. -/
def Crashed (pid : Int32) (result : Except CrawlError α) : Prop :=
  ∃ detail, result = .error (.workerCrashed pid detail)

namespace Conduct

variable {conduct : Conduct}

theorem content_stream (conduct : Conduct) :
    Stream.content conduct.stream.arrivals = conduct.written := by
  by_cases hempty : conduct.written.size = 0
  · have harrivals : conduct.stream.arrivals = [] := if_pos hempty
    rw [harrivals]
    exact (ByteArray.size_eq_zero_iff.mp hempty).symm
  · have harrivals : conduct.stream.arrivals = [.bytes conduct.written] := if_neg hempty
    rw [harrivals]
    exact ByteArray.append_empty

theorem flowing_stream (conduct : Conduct) : Stream.Flowing conduct.stream.arrivals := by
  intro piece hpiece
  by_cases hempty : conduct.written.size = 0
  · have harrivals : conduct.stream.arrivals = [] := if_pos hempty
    rw [harrivals] at hpiece
    cases hpiece
  · have harrivals : conduct.stream.arrivals = [.bytes conduct.written] := if_neg hempty
    rw [harrivals] at hpiece
    cases List.mem_singleton.mp hpiece
    exact hempty

private theorem verdict_of_reply {reply : Reply α}
    (h : (receiveReply decoder conduct.stream).1 = .result (.ok reply)) :
    conduct.verdict timeout pid decoder = reply.mapError .probe := by
  unfold verdict Receiver.start
  rw [h]
  rfl

private theorem verdict_of_failure {cause : IoError}
    (h : (receiveReply decoder conduct.stream).1 = .result (.error cause)) :
    Crashed pid (conduct.verdict timeout pid decoder) := by
  unfold verdict Receiver.start
  rw [h]
  exact ⟨_, rfl⟩

private theorem verdict_of_silence (h : (receiveReply decoder conduct.stream).1 = .silent) :
    conduct.verdict timeout pid decoder = .error (.isolationTimeout pid timeout) := by
  unfold verdict Receiver.start
  rw [h]
  rfl

/-- A result is what follows from the bytes of the worker and from whether they end. -/
structure Explains (timeout : Duration) (pid : Int32) (decoder : Json.Decoder α)
    (conduct : Conduct) (result : Except CrawlError α) : Prop where
  /-- A reply that arrives is the result. -/
  replied : ∀ reply, Frame.Carries decoder conduct.written reply → result = reply.mapError .probe
  /-- Bytes that are no reply are those of a lost worker. -/
  spoiled : Frame.Spoiled decoder conduct.written → Crashed pid result
  /-- A worker that closes the pipe too early is lost. -/
  closed : Frame.CutOff conduct.written → conduct.closes = true → Crashed pid result
  /-- A worker that leaves the pipe open is late. -/
  silent : Frame.CutOff conduct.written → conduct.closes = false →
    result = .error (.isolationTimeout pid timeout)
  /-- The whole frame of a reply that can be sent gives the reply, whatever is behind it. -/
  whole : ∀ (toJson : α → Option Json) (reply : Reply α) (json : Json) (rest : ByteArray),
    Reply.json? toJson reply = some json → json.compact.toUTF8.size ≤ maxReplyBytes →
    Reply.Faithful toJson decoder reply →
    conduct.written = Frame.ofText json.compact.toUTF8 ++ rest → result = reply.mapError .probe
  /-- A frame that lacks any of its bytes gives no value. -/
  part : ∀ text missing, Frame.ofText text = conduct.written ++ missing → missing.size ≠ 0 →
    text.size ≤ maxReplyBytes → (conduct.closes = true → Crashed pid result) ∧
      (conduct.closes = false → result = .error (.isolationTimeout pid timeout))
  /-- There is no other result. -/
  only : (∃ reply, Frame.Carries decoder conduct.written reply ∧ result = reply.mapError .probe) ∨
    Crashed pid result ∨ result = .error (.isolationTimeout pid timeout)

/-- The verdict follows from the bytes of the worker and from whether they end. -/
theorem verdict_explained (timeout : Duration) (pid : Int32) (decoder : Json.Decoder α)
    (conduct : Conduct) : conduct.Explains timeout pid decoder
      (conduct.verdict timeout pid decoder) := by
  have hflow := conduct.flowing_stream
  have hcontent := conduct.content_stream
  have hreplied (reply : Reply α) (h : Frame.Carries decoder conduct.written reply) :
      conduct.verdict timeout pid decoder = reply.mapError .probe :=
    verdict_of_reply (receiveReply_of_carries hflow (hcontent ▸ h))
  have hspoiled (h : Frame.Spoiled decoder conduct.written) :
      Crashed pid (conduct.verdict timeout pid decoder) := by
    obtain ⟨cause, hreceived⟩ := receiveReply_of_spoiled hflow (hcontent ▸ h)
    exact verdict_of_failure hreceived
  have hcut (h : Frame.CutOff conduct.written) :
      (receiveReply decoder conduct.stream).1 = .ofEnd conduct.stream.ending :=
    receiveReply_of_cutOff hflow (hcontent ▸ h)
  have hclosed (h : Frame.CutOff conduct.written) (hcloses : conduct.closes = true) :
      Crashed pid (conduct.verdict timeout pid decoder) := by
    have hending : conduct.stream.ending = .closed := if_pos hcloses
    rw [hending] at hcut
    exact verdict_of_failure (hcut h)
  have hsilent (h : Frame.CutOff conduct.written) (hopen : conduct.closes = false) :
      conduct.verdict timeout pid decoder = .error (.isolationTimeout pid timeout) := by
    have hending : conduct.stream.ending = .silent := if_neg (by simp [hopen])
    rw [hending] at hcut
    exact verdict_of_silence (hcut h)
  refine ⟨hreplied, hspoiled, hclosed, hsilent, ?whole, ?part, ?only⟩
  case whole =>
    intro toJson reply json rest hjson hsize hfaithful hwritten
    refine hreplied reply ?_
    rw [hwritten]
    exact Frame.carries_ofText (Reply.readsBack hjson hfaithful) hsize rest
  case part =>
    intro text missing hframe hmissing hsize
    have hpart := Frame.cutOff_of_front hmissing hsize hframe
    exact ⟨hclosed hpart, hsilent hpart⟩
  case only =>
    rcases Frame.carries_or_spoiled_or_cutOff decoder conduct.written with ⟨reply, h⟩ | h | h
    · exact .inl ⟨reply, h, hreplied reply h⟩
    · exact .inr (.inl (hspoiled h))
    · cases hcloses : conduct.closes with
      | true => exact .inr (.inl (hclosed h hcloses))
      | false => exact .inr (.inr (hsilent h hcloses))

/-- A worker that wrote nothing is lost if it closed the pipe, and late otherwise. -/
theorem Explains.of_empty {result : Except CrawlError α}
    (h : conduct.Explains timeout pid decoder result)
    (hwritten : conduct.written = ByteArray.empty) :
    (conduct.closes = true → Crashed pid result) ∧
      (conduct.closes = false → result = .error (.isolationTimeout pid timeout)) := by
  have hcut : Frame.CutOff conduct.written := by
    rw [hwritten]
    exact .inl (by decide)
  exact ⟨h.closed hcut, h.silent hcut⟩

end Conduct

/-- The result that a call should have, given what became of the probe in its worker. -/
inductive ProbeEnding.Yields (timeout : Duration) (pid : Int32) (toJson : α → Option Json) :
    ProbeEnding α → Except CrawlError α → Prop where
  /-- The probe returned a value. -/
  | value {value : α} (hsend : Reply.Sendable toJson (.ok value)) :
      Yields timeout pid toJson (.returned (.ok value)) (.ok value)
  /-- The probe returned a failure. -/
  | failure {failure : ProbeError} (hsend : Reply.Sendable toJson (.error failure)) :
      Yields timeout pid toJson (.returned (.error failure)) (.error (.probe failure))
  /-- The reply cannot be sent. -/
  | unsent {reply : Reply α} {detail : String} (hsend : ¬Reply.Sendable toJson reply) :
      Yields timeout pid toJson (.returned reply) (.error (.workerCrashed pid detail))
  /-- The probe stopped. -/
  | panicked : Yields timeout pid toJson .panicked (.error (.probe ⟨"Panic", "probe panicked"⟩))
  /-- The worker ended without a reply. -/
  | ended {status : ExitStatus} {detail : String} :
      Yields timeout pid toJson (.ended status) (.error (.workerCrashed pid detail))
  /-- The worker closed the pipe and went on. -/
  | closed {detail : String} :
      Yields timeout pid toJson (.hung true) (.error (.workerCrashed pid detail))
  /-- The worker never came to an end. -/
  | silent : Yields timeout pid toJson (.hung false) (.error (.isolationTimeout pid timeout))

section Endings

variable {toJson : α → Option Json} {reply : Reply α} {result : Except CrawlError α}

/-- A reply that is short enough is written as one frame. -/
private theorem ofReply_written {inJson : Reply Json}
    (hsize : (Reply.toJson (fun value => value) inJson).compact.toUTF8.size ≤ maxReplyBytes) :
    (Conduct.ofReply (fun value => value) inJson).written =
      Frame.ofText (Reply.toJson (fun value => value) inJson).compact.toUTF8 := by
  have hframe : Frame.encode (fun value => value) inJson =
      .ok (Frame.ofText (Reply.toJson (fun value => value) inJson).compact.toUTF8) := if_pos hsize
  unfold Conduct.ofReply
  rw [hframe]

/-- Of a reply that is too long nothing is written. -/
private theorem ofReply_unwritten {inJson : Reply Json}
    (hsize : ¬(Reply.toJson (fun value => value) inJson).compact.toUTF8.size ≤ maxReplyBytes) :
    Conduct.ofReply (fun value => value) inJson = ⟨ByteArray.empty, true, some (.exited 2)⟩ := by
  have hframe : Frame.encode (fun value => value) inJson = .error (Frame.tooLong
      (Reply.toJson (fun value => value) inJson).compact.toUTF8.size) := if_neg hsize
  unfold Conduct.ofReply
  rw [hframe]

/-- What becomes of a returned reply. -/
private theorem returned_yields
    (h : (Conduct.ofProbe (fun value => value)
      ((ProbeEnding.returned reply).encoded toJson)).Explains timeout pid decoder result)
    (hfaithful : Reply.Faithful toJson decoder reply) :
    (ProbeEnding.returned reply).Yields timeout pid toJson result := by
  by_cases hsend : Reply.Sendable toJson reply
  · have hresult : result = reply.mapError .probe := by
      obtain ⟨json, hjson, hsize⟩ := hsend
      obtain ⟨inJson, hin, rfl⟩ := Option.map_eq_some_iff.mp hjson
      refine h.whole toJson reply _ ByteArray.empty hjson hsize hfaithful ?_
      simp only [ProbeEnding.encoded, hin, Conduct.ofProbe, ByteArray.append_empty]
      exact ofReply_written hsize
    subst hresult
    cases reply with
    | ok value => exact .value hsend
    | error failure => exact .failure hsend
  · have hcrashed : Crashed pid result := by
      cases hin : Reply.inJson? toJson reply with
      | none =>
        simp only [ProbeEnding.encoded, hin, Conduct.ofProbe] at h
        exact (h.of_empty rfl).1 rfl
      | some inJson =>
        have hsize : ¬(Reply.toJson (fun value => value) inJson).compact.toUTF8.size ≤
            maxReplyBytes := fun hsize => hsend ⟨_, Option.map_eq_some_iff.mpr ⟨_, hin, rfl⟩, hsize⟩
        simp only [ProbeEnding.encoded, hin, Conduct.ofProbe, ofReply_unwritten hsize] at h
        exact (h.of_empty rfl).1 rfl
    obtain ⟨detail, rfl⟩ := hcrashed
    exact .unsent hsend

/-- The reply that stands for a panic is short. -/
private theorem panicReply_size : (Reply.toJson (fun (value : Json) => value)
    (.error Conduct.panicFailure)).compact.toUTF8.size ≤ maxReplyBytes := by
  have htext : (Reply.toJson (fun (value : Json) => value) (.error Conduct.panicFailure)).compact =
      "\x7b\"Err\":\x7b\"kind\":\"Panic\",\"message\":\"probe panicked\"\x7d\x7d" := by
    refine String.toList_inj.mp ?_
    change Json.characters _ = _
    simp only [Reply.toJson, ProbeError.toJson, Conduct.panicFailure, Json.characters_object,
      Json.characters_text, Json.quoted, List.flatMap_cons, List.flatMap_nil]
    rfl
  rw [htext]
  decide

/-- What follows from the conduct of a worker is what the ending of its probe yields. -/
theorem ProbeEnding.yields_of_explains {ending : ProbeEnding α}
    (h : (Conduct.ofProbe (fun value => value) (ending.encoded toJson)).Explains timeout pid decoder
      result)
    (hfaithful : ∀ reply, ending = .returned reply → Reply.Faithful toJson decoder reply) :
    ending.Yields timeout pid toJson result := by
  cases ending with
  | returned reply => exact returned_yields h (hfaithful reply rfl)
  | panicked =>
    have hjson : Reply.json? toJson (.error Conduct.panicFailure) =
        some (Reply.toJson (fun value => value) (.error Conduct.panicFailure)) := rfl
    have hresult : result = .error (.probe Conduct.panicFailure) := by
      refine h.whole toJson (.error Conduct.panicFailure) _ ByteArray.empty hjson panicReply_size
        (by simp [Reply.Faithful]) ?_
      rw [ByteArray.append_empty]
      exact ofReply_written panicReply_size
    exact hresult ▸ .panicked
  | ended status =>
    obtain ⟨detail, rfl⟩ := (h.of_empty rfl).1 rfl
    exact .ended
  | hung closes =>
    cases closes with
    | true =>
      obtain ⟨detail, rfl⟩ := (h.of_empty rfl).1 rfl
      exact .closed
    | false => exact (h.of_empty rfl).2 rfl ▸ .silent

end Endings

namespace Items

/-- A sequence whose items are all collected is that of a list. -/
theorem eq_ofList_of_collect {items : Items α} {values : List α} (h : items.collect = some values) :
    items = .ofList values := by
  induction items generalizing values with
  | done =>
    obtain rfl : [] = values := by simpa [collect] using h
    rfl
  | item value rest ih =>
    rw [collect, Option.map_eq_some_iff] at h
    obtain ⟨others, hothers, rfl⟩ := h
    rw [ofList, ih hothers]
  | panicked => simp [collect] at h

/-- The sequence that makes some items and then panics. -/
def panicsBehind : List α → Items α
  | [] => .panicked
  | value :: rest => .item value (panicsBehind rest)

/-- A sequence that panics is not collected, whatever items are in front. -/
theorem collect_panicsBehind (values : List α) : (panicsBehind values).collect = none := by
  induction values with
  | nil => rfl
  | cons value values ih => rw [panicsBehind, collect, ih, Option.map_none]

end Items

namespace ProbeEnding

variable {ending : ProbeEnding (Items α)} {values : List α}

/-- Values are collected from a sequence of just these values. -/
theorem of_collected_value (h : ending.collected = .returned (.ok values)) :
    ending = .returned (.ok (.ofList values)) := by
  cases ending with
  | returned reply =>
    cases reply with
    | ok items =>
      cases hitems : items.collect with
      | none => simp [collected, hitems] at h
      | some others =>
        obtain rfl : others = values := by simpa [collected, hitems] using h
        rw [Items.eq_ofList_of_collect hitems]
    | error failure => simp [collected] at h
  | panicked => simp [collected] at h
  | ended status => simp [collected] at h
  | hung closes => simp [collected] at h

/-- What is collected is read back if the items are. -/
theorem collected_faithful {toJson : α → Option Json}
    (hitems : ∀ values, ending = .returned (.ok (.ofList values)) →
      ∀ value ∈ values, ∀ json, toJson value = some json →
        Json.ReadsBack (Json.depthLimit - 2) decoder json value)
    (reply : Reply (List α)) (hreply : ending.collected = .returned reply) :
    Reply.Faithful (listJson? toJson) (Json.Decoder.list decoder) reply := by
  intro values json hvalues hjson
  subst hvalues
  obtain ⟨items, hmap, rfl⟩ := Option.map_eq_some_iff.mp hjson
  exact Json.list_readsBack hmap (hitems values (of_collected_value hreply))

end ProbeEnding

namespace Executor

/-- What becomes of a call. It starts a worker just if it joins its target and is granted one. If
then the host's mount namespace can be entered again and some clock can show the end of the waiting,
it returns a result. The outcome relates the result to the session that the worker inherits. -/
def Returns (namespaces : NamespaceSystem σ) (workers : WorkerSystem σ) (executor : Executor)
    (pid : Int32) (kinds : List NamespaceKind) (probe : Probe σ α) (s : Session σ)
    (call : Call σ (Except CrawlError α))
    (outcome : Session σ → Except CrawlError α → Prop) : Prop :=
  ∃ trace, (call s).2.journal = s.journal ++ trace ∧
    (.workerStarted ∈ trace ↔
      ∃ inherited, Inherits namespaces workers executor.hooks pid kinds s inherited) ∧
    ∀ inherited, Inherits namespaces workers executor.hooks pid kinds s inherited →
      StartedIn namespaces workers executor.hooks pid kinds s trace inherited ∧
      (¬ReentryFailed .mnt trace → ¬Overrun workers executor.timeout probe inherited →
        ∃ result, (call s).1 = .ok result ∧ outcome inherited result)

variable {namespaces : NamespaceSystem σ} {workers : WorkerSystem σ} {executor : Executor}
  {kinds : List NamespaceKind} {s : Session σ}

theorem Returns.imp {probe : Probe σ α} {call : Call σ (Except CrawlError α)}
    {weak strong : Session σ → Except CrawlError α → Prop}
    (h : Returns namespaces workers executor pid kinds probe s call strong)
    (himp : ∀ inherited result, strong inherited result → weak inherited result) :
    Returns namespaces workers executor pid kinds probe s call weak := by
  obtain ⟨trace, hjournal, hstarts, hreturns⟩ := h
  refine ⟨trace, hjournal, hstarts, fun inherited hin => ?_⟩
  obtain ⟨hstarted, hresult⟩ := hreturns inherited hin
  refine ⟨hstarted, fun hkept hshown => ?_⟩
  obtain ⟨result, hr, houtcome⟩ := hresult hkept hshown
  exact ⟨result, hr, himp _ _ houtcome⟩

/-- The result of a call follows from what the caller saw of the worker. -/
theorem run_explained (probe : Probe σ α) :
    Returns namespaces workers executor pid kinds probe s
      (run namespaces workers executor pid kinds probe)
      fun inherited result =>
        (probe.conduct inherited).Explains executor.timeout pid probe.decoder result := by
  generalize hrun : run namespaces workers executor pid kinds probe s = out
  obtain ⟨r, s'⟩ := out
  obtain ⟨trace, hcourse, hgains⟩ := run_course hrun
  rw [Returns, hrun]
  refine ⟨trace, (hgains ∅ s.sound_empty).journal_eq, hcourse.workerStarted_mem_iff,
    fun inherited hin => ?_⟩
  obtain ⟨hstarted, hends⟩ := hcourse.of_inherits hin
  refine ⟨hstarted, fun hkept hshown => ?_⟩
  rcases hends with haborted | ⟨_, hover⟩ | ⟨hr, _⟩
  · exact absurd (hcourse.aborted_iff.mp haborted) hkept
  · exact absurd hover hshown
  · exact ⟨_, hr, Conduct.verdict_explained _ _ _ _⟩

/-- **Transparency.** Whatever namespaces are missing: if the preload hooks are through, a reader is
started, attaching succeeds and a worker is granted, the call starts the worker, which inherits the
session as it is then, and it starts none otherwise. If the way home is not lost and no instant is
needed that no clock can show, the call then returns a result.

For any worker the result is the reply whose frame arrives as a whole; without one the worker
is lost if the pipe is closed or carries something else, and late otherwise. A probe's value
or failure is the result if its reply has a text that is not too long and is read back, and
a panic is a failure of its own. A sequence is returned with all its items in their order,
unless making one of them panics. -/
theorem run_transparent (namespaces : NamespaceSystem σ) (workers : WorkerSystem σ)
    (executor : Executor) (pid : Int32) (kinds : List NamespaceKind) (s : Session σ) :
    (∀ probe : Probe σ α,
      Returns namespaces workers executor pid kinds probe s
        (run namespaces workers executor pid kinds probe)
        fun inherited result =>
          (probe.conduct inherited).Explains executor.timeout pid probe.decoder result) ∧
    (∀ (toJson : α → Option Json) (decoder : Json.Decoder α) (ending : Session σ → ProbeEnding α),
      Returns namespaces workers executor pid kinds (.of toJson decoder ending) s
        (run namespaces workers executor pid kinds (.of toJson decoder ending))
        fun inherited result =>
          (∀ reply, ending inherited = .returned reply → Reply.Faithful toJson decoder reply) →
            (ending inherited).Yields executor.timeout pid toJson result) ∧
    ∀ (toJson : α → Option Json) (decoder : Json.Decoder α)
      (ending : Session σ → ProbeEnding (Items α)),
      Returns namespaces workers executor pid kinds (.ofItems toJson decoder ending) s
        (runSequence namespaces workers executor pid kinds toJson decoder ending)
        fun inherited result =>
          (∀ values, ending inherited = .returned (.ok (.ofList values)) →
            ∀ value ∈ values, ∀ json, toJson value = some json →
              Json.ReadsBack (Json.depthLimit - 2) decoder json value) →
          (∀ values, ending inherited = .returned (.ok (.ofList values)) →
            Reply.Sendable (listJson? toJson) (.ok values) → result = .ok values) ∧
          (∀ values, ending inherited = .returned (.ok (.panicsBehind values)) →
            result = .error (.probe ⟨"Panic", "probe panicked"⟩)) ∧
          (ending inherited).collected.Yields executor.timeout pid (listJson? toJson) result := by
  refine ⟨run_explained, fun toJson decoder ending => ?_, fun toJson decoder ending => ?_⟩
  · refine (run_explained (Probe.of toJson decoder ending)).imp fun inherited result h => ?_
    exact ProbeEnding.yields_of_explains h
  · refine (run_explained (Probe.ofItems toJson decoder ending)).imp fun inherited result h => ?_
    intro hitems
    have hyields : (ending inherited).collected.Yields executor.timeout pid (listJson? toJson)
        result := ProbeEnding.yields_of_explains h (ProbeEnding.collected_faithful hitems)
    refine ⟨fun values hending hsend => ?_, fun values hending => ?_, hyields⟩
    · have hcollected : (ending inherited).collected = .returned (.ok values) := by
        rw [hending, ProbeEnding.collected, Items.collect_ofList]
      rw [hcollected] at hyields
      cases hyields with
      | value => rfl
      | unsent hunsent => exact absurd hsend hunsent
    · have hcollected : (ending inherited).collected = .panicked := by
        rw [hending, ProbeEnding.collected, Items.collect_panicsBehind]
      rw [hcollected] at hyields
      cases hyields
      rfl

/-- A system on which all is granted but entering another name of the host. -/
private def namelessNamespaces : NamespaceSystem Unit where
  openNamespace _ _ w := (none, w)
  enterNamespace handle w := (if handle.kind = .uts then some (.system 1) else none, w)
  closeNamespace _ w := (none, w)
  currentDirectory w := (.ok "/", w)
  changeDirectory _ w := (none, w)

/-- A system on which every request about workers is granted. -/
private def readyWorkers : WorkerSystem Unit where
  tryChild := ChildEnding.always
  startReader w := (none, w)
  startWorker w := (none, w)
  uptime w := (⟨0⟩, w)

/-- A probe that finds a name. -/
private def nameProbe : Probe Unit String :=
  .of (fun name => some (.text name)) Json.Decoder.text fun _ => .returned (.ok "web")

private def nameCall : Call Unit (Except CrawlError String) :=
  run namelessNamespaces readyWorkers {} 3 [.uts, .mnt] nameProbe

/-- What is noted of the call that looks for the name. -/
private def nameTrace : List Entry :=
  [.hookRan "nss", .hookRan "timezone", .readerStarted, .opened ⟨0, .caller, .uts⟩,
    .opened ⟨1, .process 3, .uts⟩, .opened ⟨2, .caller, .mnt⟩, .opened ⟨3, .process 3, .mnt⟩,
    .suppressed, .enterFailed ⟨1, .process 3, .uts⟩, .entered ⟨3, .process 3, .mnt⟩,
    .workerStarted, .workerReaped, .entered ⟨2, .caller, .mnt⟩, .directoryChanged "/", .resumed,
    .noticed (.namespaceSkipped 3 .uts .entering (.system 1)) 0, .closed ⟨0, .caller, .uts⟩,
    .closed ⟨2, .caller, .mnt⟩, .closed ⟨1, .process 3, .uts⟩, .closed ⟨3, .process 3, .mnt⟩]

private theorem nameReply_compact :
    (Reply.toJson (fun (value : Json) => value) (.ok (.text "web"))).compact =
      "\x7b\"Ok\":\"web\"\x7d" := by
  refine String.toList_inj.mp ?_
  change Json.characters _ = _
  simp only [Reply.toJson, Json.characters_object, Json.characters_text, Json.quoted,
    List.flatMap_nil]
  rfl

/-- The frame that the worker writes. -/
private def nameFrame : ByteArray :=
  ⟨#[12, 0, 0, 0, 0, 0, 0, 0, 123, 34, 79, 107, 34, 58, 34, 119, 101, 98, 34, 125]⟩

private theorem nameProbe_eq :
    nameProbe = ⟨fun _ => ⟨nameFrame, true, some (.exited 0)⟩, Json.Decoder.text⟩ := by
  have hframe : Frame.encode (fun value => value) (.ok (.text "web") : Reply Json) =
      .ok nameFrame := by
    rw [Frame.encode, nameReply_compact]
    decide +kernel
  have hconduct : Conduct.ofReply (fun value => value) (.ok (.text "web")) =
      ⟨nameFrame, true, some (.exited 0)⟩ := by
    rw [Conduct.ofReply, hframe]
  exact congrArg (fun conduct => Probe.mk (fun _ => conduct) Json.Decoder.text) hconduct

/-- Where another name of the host cannot be entered, the worker is started nevertheless, and the
value of its probe is returned. -/
theorem run_transparent_value :
    (nameCall { world := () }).2.journal = nameTrace ∧
      (∃ inherited, Inherits namelessNamespaces readyWorkers Preloader.standardHooks 3 [.uts, .mnt]
        { world := () } inherited) ∧
      (nameCall { world := () }).1 = .ok (.ok "web") := by
  have hnoted : (nameCall { world := () }).2.journal = nameTrace := by
    rw [nameCall, nameProbe_eq]
    decide +kernel
  have hcall : nameCall = run namelessNamespaces readyWorkers {} 3 [.uts, .mnt]
      (.of (fun name => some (.text name)) Json.Decoder.text fun _ => .returned (.ok "web")) := rfl
  obtain ⟨trace, hjournal, hstarts, hreturns⟩ := (run_transparent namelessNamespaces readyWorkers
    {} 3 [.uts, .mnt] { world := () }).2.1 (fun name => some (.text name)) Json.Decoder.text
      fun _ => .returned (.ok "web")
  rw [← hcall] at hjournal hreturns
  obtain rfl : nameTrace = trace := hnoted.symm.trans hjournal
  obtain ⟨inherited, hin⟩ := hstarts.mp (by decide)
  have hkept : ¬ReentryFailed .mnt nameTrace := by simp [ReentryFailed, nameTrace]
  have hinstant : (Instant.mk 0).add? ({} : Executor).timeout ≠ none := by decide
  obtain ⟨result, hresult, hyields⟩ := (hreturns inherited hin).2 hkept fun hover => hinstant hover.2
  have hsend : Reply.Sendable (fun name => some (.text name)) (.ok "web") :=
    ⟨_, rfl, by rw [nameReply_compact]; decide⟩
  have hfaithful (reply : Reply String) :
      Reply.Faithful (fun name => some (.text name)) Json.Decoder.text reply := by
    intro name json _ hjson
    obtain rfl := Option.some.inj hjson
    exact Json.text_readsBack _ name
  cases hyields fun reply _ => hfaithful reply with
  | value => exact ⟨hnoted, ⟨inherited, hin⟩, hresult⟩
  | unsent hunsent => exact absurd hsend hunsent

end Executor

end Periscope
