import Sheltering.Config.Load
import Sheltering.Proofs.Setting.Stack

/-!
# The fields of a configuration

* `Config.Field`, `Config.fields`: each field with its place in a table and in a configuration.
* `Config.ofSettings?_of_fields`: a table is read as a configuration field by field.
* `Config.toSettings_gives`: the table of a configuration has every field, and each is read back.
* `Settings.isTyped`: a table gives tables for sections, and settings that their fields read.
* `Config.Readable.setting?_mergeLayers`: what several tables over each other give a field.
-/

namespace Sheltering

namespace Settings

variable {α : Type} {s : Settings} {part key : String} {read : Setting → Option α} {x : α}
  {entries : List (String × Setting)}

/-- What is under a key within a key is read as a value. -/
def Gives (s : Settings) (part key : String) (read : Setting → Option α) (x : α) : Prop :=
  ∃ v, s.at? part key = some v ∧ read v = some x

theorem Gives.exists_section (h : s.Gives part key read x) :
    ∃ entries, s.lookup part = some (.table entries) := by
  obtain ⟨v, hv, -⟩ := h
  obtain ⟨u, hpart, hget⟩ := Option.bind_eq_some_iff.mp hv
  cases u with
  | table entries => exact ⟨entries, hpart⟩
  | _ => cases hget

theorem Gives.withDefault? (h : s.Gives part key read x)
    (hpart : s.lookup part = some (.table entries)) (default : α) :
    Settings.withDefault? entries key default read = some x := by
  obtain ⟨v, hv, hread⟩ := h
  rw [at?, hpart, Option.bind_some, Setting.get?] at hv
  rw [Settings.withDefault?, hv]
  exact hread

theorem withDefault?_of_lookup (hpart : s.lookup part = some (.table entries))
    (hread : read (.table entries) = some x) (default : α) :
    s.withDefault? part default read = some x := by
  rw [withDefault?, hpart]
  exact hread

end Settings

namespace Config

/-- A field of a configuration. -/
structure Field where
  /-- The key of its section. -/
  part : String
  /-- Its key in the section. -/
  key : String
  /-- What it may be. -/
  Value : Type
  /-- How a setting is read. -/
  read : Setting → Option Value
  /-- What it is in a configuration. -/
  value : Config → Value

/-- The fields of a configuration. -/
def fields : List Field :=
  [⟨"node", "address", String, Setting.text?, (·.node.address)⟩,
    ⟨"database", "path", String, Setting.text?, (·.database.path)⟩,
    ⟨"database", "max_connections", UInt32, Setting.word32?, (·.database.maxConnections)⟩,
    ⟨"logging", "level", String, Setting.text?, (·.logging.level)⟩,
    ⟨"logging", "format", String, Setting.text?, (·.logging.format)⟩,
    ⟨"logging", "log_dir", Option String, Setting.textOrNull?, (·.logging.directory)⟩,
    ⟨"logging", "rotation", String, Setting.text?, (·.logging.rotation)⟩,
    ⟨"worker", "interval_secs", UInt64, Setting.word64?, (·.worker.interval)⟩,
    ⟨"worker", "lease_timeout_secs", UInt64, Setting.word64?, (·.worker.leaseTimeout)⟩,
    ⟨"worker", "work_type", String, Setting.text?, (·.worker.workType)⟩,
    ⟨"worker", "mode", Mode, Setting.variant? Mode.names, (·.worker.mode)⟩,
    ⟨"resolution", "strategy", Participation, Setting.variant? Participation.names,
      (·.resolution.strategy)⟩,
    ⟨"resolution", "retry_timeout_secs", UInt64, Setting.word64?, (·.resolution.retryTimeout)⟩,
    ⟨"resolution", "download_timeout_ms", UInt64, Setting.word64?,
      (·.resolution.downloadTimeout)⟩]

namespace Field

/-- The setting that a table gives a field. -/
def setting? (f : Field) (s : Settings) : Option Setting := s.at? f.part f.key

/-- The settings that some layers give a field, the highest layer first. -/
def given (f : Field) (layers : List Settings) : List Setting := layers.filterMap f.setting?

/-- The name of the variable for a field, up to the case of its letters. -/
def variableName (f : Field) : String := Variable.start ++ f.part ++ "__" ++ f.key

end Field

variable {s : Settings} {c : Config}

/-- A table that gives every field a value is read as the configuration with these values. -/
theorem ofSettings?_of_fields
    (h : ∀ f ∈ fields, s.Gives f.part f.key f.read (f.value c)) : ofSettings? s = some c := by
  simp only [fields, List.forall_mem_cons] at h
  obtain ⟨address, path, connections, level, format, directory, rotation, interval, lease, workType,
    mode, strategy, retry, download, -⟩ := h
  obtain ⟨node, hnode⟩ := address.exists_section
  obtain ⟨database, hdatabase⟩ := path.exists_section
  obtain ⟨logging, hlogging⟩ := level.exists_section
  obtain ⟨worker, hworker⟩ := interval.exists_section
  obtain ⟨resolution, hresolution⟩ := strategy.exists_section
  have readNode : NodeSettings.ofSetting? (.table node) = some c.node := by
    simp [NodeSettings.ofSetting?, Setting.section?, address.withDefault? hnode]
  have readDatabase : DatabaseSettings.ofSetting? (.table database) = some c.database := by
    simp [DatabaseSettings.ofSetting?, Setting.section?, path.withDefault? hdatabase,
      connections.withDefault? hdatabase]
  have readLogging : LoggingSettings.ofSetting? (.table logging) = some c.logging := by
    simp [LoggingSettings.ofSetting?, Setting.section?, level.withDefault? hlogging,
      format.withDefault? hlogging, directory.withDefault? hlogging,
      rotation.withDefault? hlogging]
  have readWorker : WorkerSettings.ofSetting? (.table worker) = some c.worker := by
    simp [WorkerSettings.ofSetting?, Setting.section?, interval.withDefault? hworker,
      lease.withDefault? hworker, workType.withDefault? hworker, mode.withDefault? hworker]
  have readResolution : ResolutionSettings.ofSetting? (.table resolution) = some c.resolution := by
    simp [ResolutionSettings.ofSetting?, Setting.section?, strategy.withDefault? hresolution,
      retry.withDefault? hresolution, download.withDefault? hresolution]
  simp [ofSettings?, Settings.withDefault?_of_lookup hnode readNode,
    Settings.withDefault?_of_lookup hdatabase readDatabase,
    Settings.withDefault?_of_lookup hlogging readLogging,
    Settings.withDefault?_of_lookup hworker readWorker,
    Settings.withDefault?_of_lookup hresolution readResolution]

theorem exists_config {P : (f : Field) → f.Value → Prop} (h : ∀ f ∈ fields, ∃ x, P f x) :
    ∃ c : Config, ∀ f ∈ fields, P f (f.value c) := by
  simp only [fields, List.forall_mem_cons] at h
  obtain ⟨⟨address, h1⟩, ⟨path, h2⟩, ⟨connections, h3⟩, ⟨level, h4⟩, ⟨format, h5⟩, ⟨directory, h6⟩,
    ⟨rotation, h7⟩, ⟨interval, h8⟩, ⟨lease, h9⟩, ⟨workType, h10⟩, ⟨mode, h11⟩, ⟨strategy, h12⟩,
    ⟨retry, h13⟩, ⟨download, h14⟩, -⟩ := h
  refine ⟨⟨⟨address⟩, ⟨path, connections⟩, ⟨level, format, directory, rotation⟩,
    ⟨interval, lease, workType, mode⟩, ⟨strategy, retry, download⟩⟩, ?_⟩
  simp only [fields, List.forall_mem_cons]
  exact ⟨h1, h2, h3, h4, h5, h6, h7, h8, h9, h10, h11, h12, h13, h14, nofun⟩

/-! ## The defaults -/

theorem word64?_natSetting (n : UInt64) : (natSetting n.toNat).word64? = some n := by
  have hlt : n.toNat < 18446744073709551616 := n.toNat_lt_size
  simp [natSetting, Setting.word64?, Setting.natBelow?]
  omega

theorem word32?_natSetting (n : UInt32) : (natSetting n.toNat).word32? = some n := by
  have hlt : n.toNat < 4294967296 := n.toNat_lt_size
  simp [natSetting, Setting.word32?, Setting.natBelow?]
  omega

/-- The table of a configuration gives each field its value, and as no table. -/
theorem toSettings_gives (c : Config) : ∀ f ∈ fields, ∃ v, f.setting? c.toSettings = some v ∧
    v.isTable = false ∧ f.read v = some (f.value c) := by
  simp only [fields, List.forall_mem_cons]
  refine ⟨⟨_, rfl, rfl, rfl⟩, ⟨_, rfl, rfl, rfl⟩, ⟨_, rfl, rfl, word32?_natSetting _⟩,
    ⟨_, rfl, rfl, rfl⟩, ⟨_, rfl, rfl, rfl⟩, ⟨_, rfl, ?_⟩, ⟨_, rfl, rfl, rfl⟩,
    ⟨_, rfl, rfl, word64?_natSetting _⟩, ⟨_, rfl, rfl, word64?_natSetting _⟩, ⟨_, rfl, rfl, rfl⟩,
    ⟨_, rfl, rfl, ?_⟩, ⟨_, rfl, rfl, ?_⟩, ⟨_, rfl, rfl, word64?_natSetting _⟩,
    ⟨_, rfl, rfl, word64?_natSetting _⟩, nofun⟩
  · cases c.logging.directory <;> exact ⟨rfl, rfl⟩
  · cases c.worker.mode <;> rfl
  · cases c.resolution.strategy <;> rfl

/-! ## Layers -/

/-- Only fields of variants take tables, and these take united ones for the lesser variant named. -/
theorem unites : ∀ f ∈ fields, Setting.Unites f.read := by
  have text : Setting.Unites Setting.text? := Setting.unites_of_plain fun _ => rfl
  have word64 : Setting.Unites Setting.word64? := Setting.unites_of_plain fun _ => rfl
  have word32 : Setting.Unites Setting.word32? := Setting.unites_of_plain fun _ => rfl
  have textOrNull : Setting.Unites Setting.textOrNull? := Setting.unites_of_plain fun _ => rfl
  simp only [fields, List.forall_mem_cons]
  exact ⟨text, text, word32, text, text, textOrNull, text, word64, word64, text,
    Setting.unites_variant? _, Setting.unites_variant? _, word64, word64, nofun⟩

/-- Only a mode and a strategy are read from tables. -/
theorem isTable_of_read {f : Field} (hf : f ∈ fields) (mode : f.key ≠ "mode")
    (strategy : f.key ≠ "strategy") {v : Setting} (h : (f.read v).isSome = true) :
    v.isTable = false := by
  cases v with
  | table entries =>
    have hread : ∀ f ∈ fields, f.key ≠ "mode" → f.key ≠ "strategy" →
        f.read (.table entries) = none := by
      simp only [fields, List.forall_mem_cons]
      simp [Setting.text?, Setting.word32?, Setting.word64?, Setting.natBelow?,
        Setting.textOrNull?]
    rw [hread f hf mode strategy] at h
    cases h
  | _ => rfl

/-- The name of the variable for a field stands for the keys of the field. -/
theorem path?_variableName :
    ∀ f ∈ fields, Variable.path? f.variableName = some [f.part, f.key] := by
  decide +kernel

end Config

/-- What a table gives for a section is a table, and what it gives for a field is read. -/
def Settings.isTyped (s : Settings) : Bool :=
  Config.fields.all fun f =>
    s.isNested f.part && (f.setting? s).all fun v => (f.read v).isSome

namespace Config

/-- Each layer has each key once, and settings that their fields read. -/
def Readable (layers : List Settings) : Prop := ∀ l ∈ layers, l.Keyed ∧ l.isTyped = true

variable {layers : List Settings} {s : Settings} {f : Field}

theorem isTyped_nil : Settings.isTyped [] = true := rfl

theorem isNested_of_isTyped (h : s.isTyped = true) (hf : f ∈ fields) : s.isNested f.part = true :=
  (Bool.and_eq_true_iff.mp (List.all_eq_true.mp h f hf)).1

theorem read_of_isTyped (h : s.isTyped = true) (hf : f ∈ fields) {v : Setting}
    (hv : f.setting? s = some v) : (f.read v).isSome = true := by
  have hall := (Bool.and_eq_true_iff.mp (List.all_eq_true.mp h f hf)).2
  rwa [hv, Option.all_some] at hall

/-- What layers give a field is read, and has each key once. -/
theorem Readable.taken (h : Readable layers) (hf : f ∈ fields) :
    ∀ v ∈ f.given layers.reverse, Setting.Taken f.read v := by
  intro v hv
  obtain ⟨l, hl, hv⟩ := List.mem_filterMap.mp hv
  obtain ⟨keyed, typed⟩ := h l (List.mem_reverse.mp hl)
  exact ⟨keyed.at? hv, read_of_isTyped typed hf hv⟩

/-- What merged layers give a field is what they give it over each other, and over its default. -/
theorem Readable.setting?_mergeLayers (h : Readable layers) (hf : f ∈ fields) {lowest : Setting}
    (hlowest : f.setting? ({} : Config).toSettings = some lowest) :
    f.setting? (mergeLayers layers) = some (Setting.stack lowest (f.given layers.reverse)) := by
  have nested : ∀ l ∈ layers, l.Keyed ∧ l.isNested f.part = true :=
    fun l hl => (h l hl).imp_right fun typed => isNested_of_isTyped typed hf
  rw [Field.setting?] at hlowest
  rw [Field.setting?, mergeLayers, Settings.at?_foldl_merge nested, hlowest]
  exact Setting.foldl_merge_map f.setting? layers lowest

end Config

end Sheltering
