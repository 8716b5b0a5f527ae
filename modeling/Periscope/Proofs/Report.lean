import Periscope.Proofs.Json.Kept
import Periscope.Report

/-!
# Reports are read back

An outcome says its kind in one member and its content in another, and the features of a report are
the members of an object. Each member leads on to what is read with it, so the whole report is read
back from any way to write it.
-/

namespace Periscope

open Json

namespace FeatureOutcome

/-- An outcome can be kept if its value can; the reason of a failure may be any text. -/
def Keepable (bound : Nat) : FeatureOutcome → Prop
  | .ok value => value.Keepable bound
  | .failed _ => True

/-- The kind of an outcome. -/
def status : FeatureOutcome → Status
  | .ok _ => .ok
  | .failed _ => .failed

/-- The content of an outcome. -/
def content : FeatureOutcome → Json
  | .ok value => value
  | .failed error => .text error

/-- The name of a kind. -/
def Status.name : Status → String
  | .ok => "ok"
  | .failed => "failed"

theorem Status.contentName_ne (status : Status) : status.contentName ≠ "status" := by
  cases status <;> decide

theorem toJson_eq (outcome : FeatureOutcome) :
    outcome.toJson = .object [("status", .text outcome.status.name),
      (outcome.status.contentName, outcome.content)] := by
  cases outcome <;> rfl

theorem Keepable.content_keepable {bound : Nat} {outcome : FeatureOutcome}
    (h : outcome.Keepable bound) : outcome.content.Keepable bound := by
  cases outcome with
  | ok value => exact h
  | failed error => exact .text bound error

theorem readStatus_reads (depth : Nat) (status : Status) {text : List Char}
    (h : Writes (.text status.name) text) : Reads (readStatus depth) status text := by
  cases h with
  | text hs =>
    have hword := text_reads depth hs
    refine ⟨hword.begins, fun blanks rest hblanks hrest => ?_⟩
    rw [readStatus, bind_of_ok (hword.behindBlanks blanks rest hblanks hrest)]
    cases status <;> rfl

/-- What was read of an outcome when all its members were. -/
def lastDraft (outcome : FeatureOutcome) : Draft :=
  { status := some outcome.status
    members := [(outcome.status.contentName, outcome.content)] }

theorem ofDraft_lastDraft (outcome : FeatureOutcome) :
    ofDraft outcome.lastDraft = some outcome := by cases outcome <;> rfl

/-- The kind of an outcome is read, then its content. -/
theorem leads_lastDraft {bound depth : Nat} {outcome : FeatureOutcome} (h : outcome.Keepable bound)
    (hdepth : bound ≤ depth) :
    Leads (readMember depth) (fun member text => WritesMember member text) {}
      [("status", .text outcome.status.name), (outcome.status.contentName, outcome.content)]
      outcome.lastDraft := by
  have hkind : ∀ text, WritesMember ("status", .text outcome.status.name) text →
      Reads (do openName; readMember depth {}) { status := some outcome.status } text :=
    fun text htext => htext.reads rfl fun part hpart =>
      (readStatus_reads depth _ hpart).map fun status => ({ status := some status } : Draft)
  have hname := outcome.status.contentName_ne
  have hcontent : ∀ text, WritesMember (outcome.status.contentName, outcome.content) text →
      Reads (do openName; readMember depth { status := some outcome.status })
        outcome.lastDraft text :=
    fun text htext => htext.reads (if_neg hname) fun part hpart =>
      (h.content_keepable.reads hdepth hpart).map fun value =>
        ({ status := some outcome.status
           members := [(outcome.status.contentName, value)] } : Draft)
  exact .next hkind (.next hcontent (.done _))

/-- An outcome is read back from any way to write it. -/
theorem decoder_reads {bound depth : Nat} {outcome : FeatureOutcome} (h : outcome.Keepable bound)
    (hdepth : bound ≤ depth) {text : List Char} (htext : Writes outcome.toJson text) :
    Reads (decoder (depth + 1)) outcome text := by
  rw [toJson_eq] at htext
  cases htext with
  | object hmembers =>
    refine (leads_lastDraft h hdepth).reads (ignoresBlanks_peekStart.bind _)
      (fun input rest hread => ?_) hmembers
    have hopened : Decoder.opened
        (fun depth => do return ofDraft (← readMembers (readMember depth) {})) (depth + 1)
        (some '\x7b' :: input) = .ok (some outcome, rest) := by
      rw [← ofDraft_lastDraft outcome]
      exact (bind_of_ok advance_cons).trans (bind_of_ok hread)
    rw [decoder, bind_of_ok (peekStart_brace input)]
    dsimp only
    rw [bind_of_ok hopened]
    rfl

end FeatureOutcome

namespace ContainerReport

/-- The outcomes of features are read back from any way to write them. -/
theorem featuresDecoder_reads {bound depth : Nat} {features : List (Feature × FeatureOutcome)}
    (hsorted : (features.map Prod.fst).Pairwise (compare · · = .lt))
    (hkeepable : ∀ entry ∈ features, entry.2.Keepable bound) (hdepth : bound ≤ depth)
    {text : List Char}
    (htext : Writes (.object (features.map fun f => (f.1.name, f.2.toJson))) text) :
    Reads (featuresDecoder (depth + 2)) features text := by
  have hmember : ∀ entry ∈ features, ∀ read part,
      WritesMember (entry.1.name, entry.2.toJson) part →
        Reads (do openName; readFeature (depth + 1) read)
          (Pairs.insert entry.1 entry.2 read) part := by
    intro entry hentry read part hpart
    have hnamed := Feature.ofName?_name entry.1
    refine hpart.reads (by simp only [hnamed]; rfl) fun part hwrites => ?_
    exact (FeatureOutcome.decoder_reads (hkeepable entry hentry) hdepth hwrites).map
      (Pairs.insert entry.1 · read)
  cases htext with
  | object hmembers =>
    refine (leads_table hsorted hmember).reads (ignoresBlanks_peekStart.bind _)
      (fun input rest hread => ?_) hmembers.of_map
    rw [featuresDecoder, bind_of_ok (peekStart_brace input)]
    exact (bind_of_ok advance_cons).trans hread

/-- A field is read from the member with its name. -/
theorem field_reads {α : Type} {decoder : Decoder α} {get : Draft → Option α}
    {set : α → Draft → Draft} {value : Json} {out : α} (depth : Nat) (draft : Draft) (name : String)
    (hfield : fields.find? (·.name = name) = some (.of name decoder get set))
    (hget : get draft = none)
    (hvalue : ∀ part, Writes value part → Reads (decoder depth) out part) :
    ∀ text, WritesMember (name, value) text →
      Reads (do openName; Decoder.readMember fields depth draft) (set out draft) text := by
  intro text htext
  have hfilled : (Decoder.Field.of name decoder get set).filled draft = false := by
    simp [Decoder.Field.of, hget]
  refine htext.reads ?_ fun part hpart => (hvalue part hpart).map (set · draft)
  simp only [hfield, hfilled, Bool.false_eq_true, if_false]
  rfl

/-- A report is read back from any way to write it. -/
theorem decoder_reads {bound depth : Nat} {report : ContainerReport}
    (hsorted : (report.features.map Prod.fst).Pairwise (compare · · = .lt))
    (hkeepable : ∀ entry ∈ report.features, entry.2.Keepable bound) (hdepth : bound ≤ depth)
    {text : List Char} (htext : Writes report.toJson text) :
    Reads (decoder (depth + 3)) report text := by
  obtain ⟨containerId, pid, features⟩ := report
  have hid := field_reads (depth + 2) {} "container_id" rfl rfl
    fun part (hpart : Writes (.text containerId) part) => by
      cases hpart with
      | text hs => exact text_reads _ hs
  have hpid := field_reads (depth + 2) { containerId } "pid" rfl rfl
    fun part (hpart : Writes (.integer pid.toInt) part) => by
      cases hpart
      exact int32_reads _ pid
  have hfeatures := field_reads (depth + 2) { containerId, pid } "features" rfl rfl
    fun _ hpart => featuresDecoder_reads hsorted hkeepable hdepth hpart
  cases htext with
  | object hmembers =>
    have hleads := Leads.next hid (.next hpid (.next hfeatures (.done _)))
    exact hleads.reads (ignoresBlanks_peekStart.bind _)
      (fun input rest hread => record_brace hread rfl) hmembers

/-- **A report is read back from its JSON.** It has any of the features, in report order, each once.
Its container's id and the reason of a failure may be any texts, and the value of a feature may be
any JSON without doubles that is nested up to 124 deep; the report itself opens the other three of
the brackets that the reader keeps. Every feature comes back under its own name, with the status it
had and with its value or reason unchanged. This holds of both forms of printing, and of any other
way to write the same report. -/
theorem read_back (report : ContainerReport)
    (hsorted : (report.features.map Prod.fst).Pairwise (compare · · = .lt))
    (hkeepable : ∀ entry ∈ report.features, entry.2.Keepable 124) :
    decodeText decoder report.toJson.compact = .ok report ∧
      decodeText decoder report.toJson.pretty = .ok report ∧
      ∀ text, Writes report.toJson text → decodeText decoder (String.ofList text) = .ok report := by
  have hread : ∀ text, Writes report.toJson text →
      decodeText decoder (String.ofList text) = .ok report := by
    intro text htext
    have hdecoded := (decoder_reads hsorted hkeepable (Nat.le_refl 124) htext).decodeText .nil .nil
    rwa [List.nil_append, List.append_nil] at hdecoded
  refine ⟨?_, ?_, hread⟩
  · have hcompact := hread _ (writes_characters report.toJson)
    rwa [characters, String.ofList_toList] at hcompact
  · have hpretty := hread _ (writes_pretty report.toJson)
    rwa [String.ofList_toList] at hpretty

/-- A report with a nested value, the greatest and the least number, and a reason that has to be
escaped. -/
theorem read_back_nested :
    let value := Json.object [("a", .array [.null, .integer 18446744073709551615]),
      ("b", .object [("c", .integer (-9223372036854775808)), ("d", .text "é\n")])]
    let report : ContainerReport :=
      ⟨"a\"b", -1, [(.os, .ok value), (.cpu, .failed "no \\ files\x00")]⟩
    (report.features.map Prod.fst).Pairwise (compare · · = .lt) ∧
      (∀ entry ∈ report.features, entry.2.Keepable 124) ∧
      decodeText decoder report.toJson.compact = .ok report := by
  intro value report
  have hsorted : (report.features.map Prod.fst).Pairwise (compare · · = .lt) := by decide
  have hnumbers : (Json.array [.null, .integer 18446744073709551615]).Keepable 123 :=
    .array (List.forall_mem_cons.mpr ⟨.null _, List.forall_mem_singleton.mpr
      (.integer _ (by decide) (by decide))⟩)
  have htexts : (Json.object [("c", .integer (-9223372036854775808)),
      ("d", .text "é\n")]).Keepable 123 :=
    .object (by decide) (List.forall_mem_cons.mpr ⟨.integer _ (by decide) (by decide),
      List.forall_mem_singleton.mpr (.text _ _)⟩)
  have hvalue : value.Keepable 124 :=
    .object (by decide) (List.forall_mem_cons.mpr ⟨hnumbers, List.forall_mem_singleton.mpr htexts⟩)
  have hkeepable : ∀ entry ∈ report.features, entry.2.Keepable 124 :=
    List.forall_mem_cons.mpr ⟨hvalue, List.forall_mem_singleton.mpr trivial⟩
  exact ⟨hsorted, hkeepable, (read_back report hsorted hkeepable).1⟩

end ContainerReport

end Periscope
