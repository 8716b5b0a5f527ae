import Mathlib.Data.List.Nodup
import Periscope.Config
import Periscope.Proofs.Json.Skipping

/-!
# Settings and their spellings

A setting is one field of a configuration with a value for it. What a file says is a list of
settings, and what it means is the default configuration with these settings in place of its
own. While they have different names their order does not matter.
-/

namespace Periscope

namespace Config

/-- A field of a configuration and a value for it. -/
inductive Setting where
  /-- The bound on isolated calls. -/
  | isolationTimeoutSecs (seconds : UInt64)
  /-- The namespaces to join. -/
  | namespaces (kinds : List NamespaceKind)
  /-- The place of the process directory. -/
  | procRoot (root : String)
  /-- The place of the accounting files. -/
  | cgroupRoot (root : String)
  /-- The layout of the accounting files. -/
  | cgroupLayout (layout : CgroupLayout)
  /-- The time between two readings. -/
  | coldStartIntervalMs (interval : UInt64)
  /-- What to collect. -/
  | features (wanted : List Feature)

namespace Setting

/-- The name of the field. -/
def name : Setting → String
  | isolationTimeoutSecs _ => "isolation_timeout_secs"
  | namespaces _ => "namespaces"
  | procRoot _ => "proc_root"
  | cgroupRoot _ => "cgroup_root"
  | cgroupLayout _ => "cgroup_layout"
  | coldStartIntervalMs _ => "cold_start_interval_ms"
  | features _ => "features"

/-- The configuration with this setting in place of its own. -/
def apply : Setting → Config → Config
  | isolationTimeoutSecs seconds, config => { config with isolationTimeoutSecs := seconds }
  | namespaces kinds, config => { config with namespaces := kinds }
  | procRoot root, config => { config with procRoot := root }
  | cgroupRoot root, config => { config with cgroupRoot := root }
  | cgroupLayout layout, config => { config with cgroupLayout := layout }
  | coldStartIntervalMs interval, config => { config with coldStartIntervalMs := interval }
  | features wanted, config => { config with features := wanted }

/-- The ways to write the value. A word is written without point, power of ten and leading
zeros; blanks may stand inside a list, and any character of a text may be escaped. -/
def Writes : Setting → List Char → Prop
  | isolationTimeoutSecs seconds => (· = Nat.toDigits 10 seconds.toNat)
  | namespaces kinds => Json.Bracketed (fun kind => Json.WritesName kind.name) '[' ']' kinds
  | procRoot root => Json.WritesText root
  | cgroupRoot root => Json.WritesText root
  | cgroupLayout layout => Json.WritesName layout.name
  | coldStartIntervalMs interval => (· = Nat.toDigits 10 interval.toNat)
  | features wanted => Json.Bracketed (fun feature => Json.WritesName feature.name) '[' ']' wanted

/-- The value as JSON. -/
def toJson : Setting → Json
  | isolationTimeoutSecs seconds => .integer seconds.toNat
  | namespaces kinds => .array (kinds.map NamespaceKind.toJson)
  | procRoot root => .text root
  | cgroupRoot root => .text root
  | cgroupLayout layout => layout.toJson
  | coldStartIntervalMs interval => .integer interval.toNat
  | features wanted => .array (wanted.map Feature.toJson)

/-- Settings of different fields may be applied in any order. -/
theorem apply_comm {a b : Setting} (h : a.name ≠ b.name) (config : Config) :
    a.apply (b.apply config) = b.apply (a.apply config) := by
  cases a <;> cases b <;> first | rfl | exact absurd rfl h

/-- A printed value is one way to write it. -/
theorem writes_toJson (s : Setting) : s.Writes s.toJson.characters := by
  have hname {α : Type} (name : α → String) (x : α) :
      Json.WritesName (name x) (Json.text (name x)).characters :=
    .alone (Json.writesText_characters _)
  cases s with
  | isolationTimeoutSecs seconds => exact Json.characters_ofNat _
  | namespaces kinds => exact Json.bracketed_array NamespaceKind.toJson fun kind _ => hname _ kind
  | procRoot root => exact Json.writesText_characters root
  | cgroupRoot root => exact Json.writesText_characters root
  | cgroupLayout layout => exact hname _ layout
  | coldStartIntervalMs interval => exact Json.characters_ofNat _
  | features wanted => exact Json.bracketed_array Feature.toJson fun feature _ => hname _ feature

/-- The draft with this setting. -/
def put : Setting → Draft → Draft
  | isolationTimeoutSecs seconds, draft => { draft with isolationTimeoutSecs := some seconds }
  | namespaces kinds, draft => { draft with namespaces := some kinds }
  | procRoot root, draft => { draft with procRoot := some root }
  | cgroupRoot root, draft => { draft with cgroupRoot := some root }
  | cgroupLayout layout, draft => { draft with cgroupLayout := some layout }
  | coldStartIntervalMs interval, draft => { draft with coldStartIntervalMs := some interval }
  | features wanted, draft => { draft with features := some wanted }

/-- Whether a draft has a value for the field already. -/
def filled : Setting → Draft → Bool
  | isolationTimeoutSecs _, draft => draft.isolationTimeoutSecs.isSome
  | namespaces _, draft => draft.namespaces.isSome
  | procRoot _, draft => draft.procRoot.isSome
  | cgroupRoot _, draft => draft.cgroupRoot.isSome
  | cgroupLayout _, draft => draft.cgroupLayout.isSome
  | coldStartIntervalMs _, draft => draft.coldStartIntervalMs.isSome
  | features _, draft => draft.features.isSome

/-- What a draft comes to with one more setting. -/
theorem ofDraft_put (s : Setting) (draft : Draft) :
    ofDraft (s.put draft) = s.apply (ofDraft draft) := by
  cases s <;> rfl

/-- A setting fills its own field only. -/
theorem filled_put {s other : Setting} (h : other.name ≠ s.name) (draft : Draft) :
    other.filled (s.put draft) = other.filled draft := by
  cases s <;> cases other <;> first | rfl | exact absurd rfl h

end Setting

private theorem kind_ofName? (kind : NamespaceKind) :
    NamespaceKind.ofName? kind.name = some kind := by cases kind <;> rfl

private theorem layout_ofName? (layout : CgroupLayout) :
    CgroupLayout.ofName? layout.name = some layout := by cases layout <;> rfl

/-- A list of names is read if each name is. -/
private theorem names_read {α : Type} {parse? : String → Option α} {name : α → String}
    (hparse : ∀ x, parse? (name x) = some x) {xs : List α} {text : List Char} (depth : Nat)
    (h : Json.Bracketed (fun x => Json.WritesName (name x)) '[' ']' xs text) :
    Json.Reads (Json.Decoder.list (Json.Decoder.enumeration parse?) (depth + 2)) xs text :=
  Json.list_reads (h.imp fun x _ _ hx => Json.enumeration_reads depth (hparse x) hx)

/-- The field of a setting reads its value into the draft, in whatever way it is written. -/
theorem Setting.field_reads (s : Setting) (depth : Nat) (draft : Draft) :
    ∃ field, fields.find? (·.name = s.name) = some field ∧
      field.filled draft = s.filled draft ∧
      ∀ text, s.Writes text → Json.Reads (field.read (depth + 2) draft) (s.put draft) text := by
  cases s with
  | isolationTimeoutSecs seconds =>
    refine ⟨_, rfl, rfl, fun text h => ?_⟩
    subst h
    exact (Json.word_reads _ seconds).map _
  | namespaces kinds =>
    exact ⟨_, rfl, rfl, fun text h => (names_read kind_ofName? depth h).map _⟩
  | procRoot root => exact ⟨_, rfl, rfl, fun text h => (Json.text_reads _ h).map _⟩
  | cgroupRoot root => exact ⟨_, rfl, rfl, fun text h => (Json.text_reads _ h).map _⟩
  | cgroupLayout layout =>
    exact ⟨_, rfl, rfl, fun text h =>
      (Json.enumeration_reads (depth + 1) (layout_ofName? layout) h).map _⟩
  | coldStartIntervalMs interval =>
    refine ⟨_, rfl, rfl, fun text h => ?_⟩
    subst h
    exact (Json.word_reads _ interval).map _
  | features wanted =>
    exact ⟨_, rfl, rfl, fun text h => (names_read Feature.ofName?_name depth h).map _⟩

/-- A name that no setting has belongs to no field. -/
theorem find?_field_eq_none {name : String} (h : ∀ s : Setting, s.name ≠ name) :
    fields.find? (·.name = name) = none := by
  simp only [fields, List.find?_eq_none, List.mem_cons, List.not_mem_nil, or_false,
    decide_eq_true_eq, forall_eq_or_imp, forall_eq]
  exact ⟨h (.isolationTimeoutSecs 0), h (.namespaces []), h (.procRoot ""), h (.cgroupRoot ""),
    h (.cgroupLayout .v1), h (.coldStartIntervalMs 0), h (.features [])⟩

/-- The default configuration with settings in place of its own. -/
def override (settings : List Setting) : Config :=
  settings.foldl (fun config s => s.apply config) {}

/-- All settings of a configuration, in the order of its fields. -/
def settings (config : Config) : List Setting :=
  [.isolationTimeoutSecs config.isolationTimeoutSecs, .namespaces config.namespaces,
   .procRoot config.procRoot, .cgroupRoot config.cgroupRoot, .cgroupLayout config.cgroupLayout,
   .coldStartIntervalMs config.coldStartIntervalMs, .features config.features]

/-- All settings together make the configuration. -/
theorem override_settings (config : Config) : override config.settings = config := by
  simp [override, settings, Setting.apply]

/-- One more setting takes the place of the one of its field. -/
theorem mem_settings_apply {s t : Setting} {config : Config} :
    s ∈ (t.apply config).settings ↔ s = t ∨ s ∈ config.settings ∧ s.name ≠ t.name := by
  cases s <;> cases t <;> simp [settings, Setting.apply, Setting.name]

/-- Settings with different names take the place of those of their fields. -/
theorem mem_settings_foldl {s : Setting} {given : List Setting}
    (hdistinct : (given.map Setting.name).Nodup) {config : Config} :
    s ∈ (given.foldl (fun config s => s.apply config) config).settings ↔
      s ∈ given ∨ s ∈ config.settings ∧ s.name ∉ given.map Setting.name := by
  induction given generalizing config with
  | nil => simp
  | cons t rest ih =>
    obtain ⟨hname, hrest⟩ := List.nodup_cons.mp hdistinct
    have hkept (h : s = t) : s.name ∉ rest.map Setting.name := h ▸ hname
    rw [List.foldl_cons, ih hrest, mem_settings_apply, List.mem_cons, List.map_cons,
      List.mem_cons, not_or]
    tauto

/-- A configuration is told by its settings. -/
theorem eq_of_settings {config other : Config}
    (h : ∀ s ∈ config.settings, s ∈ other.settings) : config = other := by
  obtain ⟨_, _, _, _, _, _, _⟩ := config
  obtain ⟨_, _, _, _, _, _, _⟩ := other
  simpa [settings] using h

/-- The order of settings with different names does not matter. -/
theorem override_perm {given others : List Setting} (h : given.Perm others)
    (hdistinct : (given.map Setting.name).Nodup) : override given = override others := by
  refine h.foldl_eq' (fun a ha b hb config => ?_) _
  by_cases hname : a.name = b.name
  · rw [List.inj_on_of_nodup_map hdistinct ha hb hname]
  · exact Setting.apply_comm (Ne.symm hname) config

end Config

end Periscope
