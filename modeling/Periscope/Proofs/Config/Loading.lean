import Mathlib.Data.List.Permutation
import Periscope.Proofs.Config.Settings

/-!
# Loading a configuration

A file may give any of the settings, in any order and among members that mean nothing. It is
loaded as the default configuration with these settings in place of its own, unless this has a
bound that is zero. A valid configuration is loaded from its own text.
-/

namespace Periscope

namespace Config

/-- A member of a configuration's object. -/
inductive Entry : Option Setting → List Char → Prop where
  /-- The member of a setting. -/
  | setting {s : Setting} {text : List Char}
      (h : Json.Member (Json.SpellsText · s.name.toList) s.Writes text) : Entry (some s) text
  /-- A member of any other name, whose value may be anything. The name is a text, so it holds no
  half of an escape pair. -/
  | ignored {name : String} {text : List Char} (hname : ∀ s : Setting, s.name ≠ name)
      (h : Json.Member (Json.SpellsText · name.toList) Json.WellFormed text) : Entry none text

/-- The content of a file that gives settings, in the order in which they stand there. -/
inductive Document : List Setting → String → Prop where
  /-- Blanks may stand around the object. -/
  | object {entries : List (Option Setting)} {before text after : List Char}
      (hbefore : Json.Blank before) (hentries : Json.Bracketed Entry '\x7b' '\x7d' entries text)
      (hafter : Json.Blank after) :
      Document (entries.filterMap id) (String.ofList (before ++ (text ++ after)))

/-- What holds between the members of an object: those to come have fields that are not filled
yet, and with their settings the draft comes to the configuration. -/
private structure Awaits (config : Config) (draft : Draft) (entries : List (Option Setting)) :
    Prop where
  distinct : ((entries.filterMap id).map Setting.name).Nodup
  unfilled : ∀ s ∈ entries.filterMap id, s.filled draft = false
  result : (entries.filterMap id).foldl (fun config s => s.apply config) (ofDraft draft) = config

/-- A member is read into the draft. -/
private theorem Awaits.member {config : Config} {draft : Draft} {entry : Option Setting}
    {entries : List (Option Setting)} {text : List Char} {depth : Nat}
    (h : Awaits config draft (entry :: entries)) (htext : Entry entry text) :
    ∃ next, Json.Reads (do Json.openName; Json.Decoder.readMember fields (depth + 2) draft)
      next text ∧ Awaits config next entries := by
  cases htext with
  | @setting s _ hmember =>
    obtain ⟨hdistinct, hunfilled, hresult⟩ := h
    obtain ⟨hname, hdistinct⟩ := List.nodup_cons.mp hdistinct
    obtain ⟨hs, hunfilled⟩ := List.forall_mem_cons.mp hunfilled
    obtain ⟨field, hfield, hfilled, hreads⟩ := s.field_reads depth draft
    refine ⟨s.put draft, Json.readMember_known hfield (hfilled.trans hs) hreads hmember,
      hdistinct, fun other hother => ?_, ?_⟩
    · have hne : other.name ≠ s.name := fun heq => hname (heq ▸ List.mem_map_of_mem hother)
      rw [Setting.filled_put hne]
      exact hunfilled other hother
    · rw [Setting.ofDraft_put]
      exact hresult
  | ignored hname hmember =>
    exact ⟨draft, Json.readMember_unknown (find?_field_eq_none hname) _ _ hmember,
      h.distinct, h.unfilled, h.result⟩

/-- The content of a file is decoded into what its settings make of the default one. -/
theorem decodeText_document {given : List Setting} {content : String} (h : Document given content)
    (hdistinct : (given.map Setting.name).Nodup) :
    Json.decodeText decoder content = .ok (override given) := by
  cases h with
  | @object entries before text after hbefore hentries hafter =>
    have hstart : Awaits (override (entries.filterMap id)) {} entries :=
      ⟨hdistinct, fun s _ => by cases s <;> rfl, rfl⟩
    have hread : Json.Reads (decoder Json.depthLimit) (override (entries.filterMap id)) text :=
      Json.object_reads (Awaits _) hstart (fun _ _ _ _ hawaits => hawaits.member)
        (fun _ hawaits => congrArg some hawaits.result) hentries
    exact hread.decodeText hbefore hafter

/-- Both bounds are positive. -/
def Valid (config : Config) : Prop :=
  0 < config.isolationTimeoutSecs ∧ 0 < config.coldStartIntervalMs

instance (config : Config) : Decidable config.Valid :=
  inferInstanceAs (Decidable (_ ∧ _))

/-- A configuration is refused for the first of its bounds that is zero. -/
theorem validate_eq (config : Config) :
    config.validate =
      if config.Valid then .ok ()
      else .error (if config.isolationTimeoutSecs = 0 then .zeroTimeout else .zeroColdStart) := by
  rw [validate]
  by_cases htimeout : config.isolationTimeoutSecs = 0
  · have hinvalid : ¬config.Valid := fun hvalid => UInt64.pos_iff_ne_zero.mp hvalid.1 htimeout
    rw [if_pos htimeout, if_neg hinvalid, if_pos htimeout]
  · rw [if_neg htimeout]
    by_cases hinterval : config.coldStartIntervalMs = 0
    · have hinvalid : ¬config.Valid := fun hvalid => UInt64.pos_iff_ne_zero.mp hvalid.2 hinterval
      rw [if_pos hinterval, if_neg hinvalid, if_neg htimeout]
    · have hvalid : config.Valid :=
        ⟨UInt64.pos_iff_ne_zero.mpr htimeout, UInt64.pos_iff_ne_zero.mpr hinterval⟩
      rw [if_neg hinterval, if_pos hvalid]

/-- What was decoded is loaded unless one of its bounds is zero. -/
theorem load_decoded {content : String} {config : Config}
    (h : Json.decodeText decoder content = .ok config) (path : String) :
    load path (.ok content) =
      if config.Valid then .ok config
      else .error (.config
        (if config.isolationTimeoutSecs = 0 then .zeroTimeout else .zeroColdStart)) := by
  have hload : load path (.ok content) = (do
      config.validate.mapError CrawlError.config
      return config) := by
    simp only [load, Except.mapError, Bind.bind, Except.bind, h]
  rw [hload, validate_eq]
  by_cases hvalid : config.Valid
  · rw [if_pos hvalid, if_pos hvalid]
    rfl
  · rw [if_neg hvalid, if_neg hvalid]
    rfl

/-- Whatever a file holds, what is loaded from it is valid. -/
theorem valid_of_load {path : String} {content : Except IoError String} {config : Config}
    (h : load path content = .ok config) : config.Valid := by
  cases content with
  | error e => cases h
  | ok content =>
    cases hdecode : Json.decodeText decoder content with
    | error e =>
      simp [load, Except.mapError, Bind.bind, Except.bind, hdecode] at h
    | ok decoded =>
      rw [load_decoded hdecode path] at h
      by_cases hvalid : decoded.Valid
      · rw [if_pos hvalid] at h
        obtain rfl := Except.ok.inj h
        exact hvalid
      · rw [if_neg hvalid] at h
        cases h

/-- Settings printed as an object are the content of a file that gives them. -/
theorem document_printed (given : List Setting) :
    Document given (Json.object (given.map fun s => (s.name, s.toJson))).compact := by
  have hmember (s : Setting) :
      Entry (some s) (Json.quoted s.name ++ ':' :: s.toJson.characters) := by
    have htext : Json.quoted s.name ++ ':' :: s.toJson.characters =
        '"' :: (s.name.toList.flatMap Json.escaped ++
          '"' :: ([] ++ ':' :: ([] ++ s.toJson.characters))) := by
      simp [Json.quoted]
    rw [htext]
    exact .setting (.colon (Json.spellsText_escaped _) .nil .nil s.writes_toJson)
  have hentries : Json.Bracketed Entry '\x7b' '\x7d' (given.map some) _ :=
    (Json.bracketed_object Setting.name Setting.toJson fun s _ => hmember s).map
  have hdocument := Document.object .nil hentries .nil
  simpa [Json.characters] using hdocument

/-- All settings of a configuration, in the order of their names. -/
private def byName (config : Config) : List Setting :=
  [.cgroupLayout config.cgroupLayout, .cgroupRoot config.cgroupRoot,
   .coldStartIntervalMs config.coldStartIntervalMs, .features config.features,
   .isolationTimeoutSecs config.isolationTimeoutSecs, .namespaces config.namespaces,
   .procRoot config.procRoot]

private theorem toJson_eq (config : Config) :
    config.toJson = .object (config.byName.map fun s => (s.name, s.toJson)) := by
  cbv

/-- A valid configuration is loaded from the text of settings that make it. -/
theorem load_printed {config : Config} (hvalid : config.Valid) {given : List Setting}
    (hdistinct : (given.map Setting.name).Nodup) (hgiven : override given = config)
    (path : String) :
    load path (.ok (Json.object (given.map fun s => (s.name, s.toJson))).compact) =
      .ok config := by
  have hdecoded := decodeText_document (document_printed given) hdistinct
  rw [load_decoded hdecoded path, hgiven, if_pos hvalid]

/-- **A file changes the settings that it names and nothing else.** A file with settings of
different names is loaded as the default configuration with these settings in place of its own, in
whatever order and spelling they stand and whatever other members stand between them, unless this
has a bound that is zero. No configuration with such a bound is ever loaded, and a valid one is
loaded from its own text, in whatever order its settings are printed. -/
theorem load_overrides_default (path : String) :
    (∀ given content, Document given content → (given.map Setting.name).Nodup →
      load path (.ok content) =
        if (override given).Valid then .ok (override given)
        else .error (.config (if (override given).isolationTimeoutSecs = 0 then .zeroTimeout
          else .zeroColdStart))) ∧
    (∀ content config, load path content = .ok config → config.Valid) ∧
    (∀ config : Config, config.Valid →
      load path (.ok config.toJson.compact) = .ok config ∧
      ∀ given : List Setting, given.Perm config.settings →
        load path (.ok (Json.object (given.map fun s => (s.name, s.toJson))).compact) =
          .ok config) := by
  refine ⟨fun given content h hdistinct => ?_, fun content config h => valid_of_load h,
    fun config hvalid => ⟨?_, fun given hperm => ?_⟩⟩
  · exact load_decoded (decodeText_document h hdistinct) path
  · rw [toJson_eq]
    exact load_printed hvalid (by simp [byName, Setting.name]) rfl path
  · have hnames : (config.settings.map Setting.name).Nodup := by
      simp [settings, Setting.name]
    have hdistinct : (given.map Setting.name).Nodup := (hperm.map _).nodup_iff.mpr hnames
    have hgiven : override given = config :=
      (override_perm hperm hdistinct).trans config.override_settings
    exact load_printed hvalid hdistinct hgiven path

/-- A file that gives one setting behind a member that means nothing. -/
theorem load_overrides_one_setting :
    load "crawl.json" (.ok "\x7b\"shell\": [null], \"cold_start_interval_ms\": 250\x7d") =
      .ok { coldStartIntervalMs := 250 } := by
  have hblank : Json.Blank [' '] := by simp [Json.Blank]
  have hshell (s : Setting) : s.name ≠ "shell" := by
    cases s <;> simp [Setting.name]
  have hitems : Json.Bracketed (fun _ item => Json.WellFormed item) '[' ']' [()] _ :=
    .parts (.last .nil .null .nil)
  have hignored : Entry none _ :=
    .ignored hshell (.colon (Json.spellsText_escaped _) .nil hblank (.array hitems))
  have hsetting : Entry (some (.coldStartIntervalMs 250)) _ :=
    .setting (.colon (Json.spellsText_escaped _) .nil hblank rfl)
  have hentries : Json.Bracketed Entry '\x7b' '\x7d' [none, some (.coldStartIntervalMs 250)] _ :=
    .parts (.more .nil hignored .nil (.last hblank hsetting .nil))
  have hload := (load_overrides_default "crawl.json").1 _ _ (.object .nil hentries .nil) (by decide)
  exact hload.trans (if_pos (by decide))

end Config

end Periscope
