import Sheltering.Proofs.Config.Field
import Sheltering.Proofs.Setting.Document
import Sheltering.Proofs.Setting.Variable

/-!
# Layers override each other field by field

A field has the value that the highest layer gives which sets it. Only where this layer and the next
one that sets it both name a variant by a table, as a tag is, the tables are united, and the lesser
name counts.

* `ConfigSources.Give`: the layers of some sources.
* `Config.Layered`: what is loaded from them.
* `Config.load_layered`: every source is loaded so; a file alone is loaded as if there were no other
  source.
* `Config.lower_tag_kept`: a tag in the lower of two files counts.
-/

namespace Sheltering

/-- The layers that some sources give, of which each has tables for its sections and settings that
their fields read. -/
structure ConfigSources.Give (sources : ConfigSources) (main overrides environment : Settings) :
    Prop where
  readMain : Config.fileLayer? sources.main = some main
  readOverrides : Config.fileLayer? sources.overrides = some overrides
  readEnvironment : Settings.ofVariables? sources.environment = some environment
  typed : ∀ layer ∈ [main, overrides, environment], layer.isTyped = true

namespace Config

variable {sources other : ConfigSources} {main overrides environment : Settings}
  {layers : List Settings} {c : Config}

/-! ## Merged layers -/

theorem keyed_of_fileLayer? {text : Option String} {layer : Settings}
    (h : fileLayer? text = some layer) : layer.Keyed := by
  cases text with
  | none =>
    cases h
    exact Settings.keyed_nil
  | some text => exact Settings.keyed_of_ofYaml? h

/-- The value of a field, of the settings that some layers give it, the highest layer first. -/
inductive Field.Decided (f : Field) : List Setting → f.Value → Prop
  /-- No layer sets the field, which has its default. -/
  | unset : Decided f [] (f.value {})
  /-- Of the highest setting, and the tables with which it is united, the one with the least key
  counts. -/
  | given {v t : Setting} {rest : List Setting} {x : f.Value}
      (ht : t ∈ Setting.deciding (v :: rest)) (read : f.read t = some x)
      (least : ∀ u ∈ Setting.deciding (v :: rest), t.leastKey ≤ u.leastKey) :
      Decided f (v :: rest) x

theorem Field.Decided.eq_default {f : Field} {given : List Setting} {x : f.Value}
    (h : f.Decided given x) (none : given = []) : x = f.value {} := by
  cases h with
  | unset => rfl
  | given _ _ _ => cases none

/-- The highest setting counts, unless it and the next one are tables. -/
theorem Field.Decided.highest {f : Field} {v : Setting} {rest : List Setting} {x : f.Value}
    (h : f.Decided (v :: rest) x)
    (plain : v.isTable = false ∨ ∀ u ∈ rest.head?, u.isTable = false) : f.read v = some x := by
  cases h with
  | given ht read _ =>
    rw [Setting.deciding_of_plain plain, List.mem_singleton] at ht
    exact ht ▸ read

theorem Readable.decided (h : Readable layers) {f : Field} (hf : f ∈ fields) :
    ∃ x, (mergeLayers layers).Gives f.part f.key f.read x ∧
      f.Decided (f.given layers.reverse) x := by
  obtain ⟨lowest, hlowest, hplain, hdefault⟩ := toSettings_gives {} f hf
  have hmerged := h.setting?_mergeLayers hf hlowest
  have htaken := h.taken hf
  cases hgiven : f.given layers.reverse with
  | nil =>
    rw [hgiven] at hmerged
    exact ⟨_, ⟨lowest, hmerged, hdefault⟩, .unset⟩
  | cons v rest =>
    rw [hgiven] at hmerged htaken
    obtain ⟨t, ht, hread, hleast⟩ := Setting.read_stack (unites f hf) hplain htaken
    obtain ⟨x, hx⟩ := Option.isSome_iff_exists.mp (htaken t (Setting.deciding_subset _ ht)).2
    exact ⟨x, ⟨_, hmerged, hread.trans hx⟩, .given ht hx hleast⟩

/-- Layers whose settings are read make a configuration, each field of which they decide. -/
theorem Readable.exists_merged (h : Readable layers) :
    ∃ c : Config, (∀ f ∈ fields, (mergeLayers layers).Gives f.part f.key f.read (f.value c)) ∧
      ∀ f ∈ fields, f.Decided (f.given layers.reverse) (f.value c) := by
  obtain ⟨c, hc⟩ := exists_config fun f hf => h.decided hf
  exact ⟨c, fun f hf => (hc f hf).1, fun f hf => (hc f hf).2⟩

/-- Layers make the same configuration where the settings that count for each field are the same. -/
theorem Readable.gives_congr {layers' : List Settings} (h : Readable layers)
    (h' : Readable layers') {f : Field} (hf : f ∈ fields)
    (same : Setting.deciding (f.given layers'.reverse) = Setting.deciding (f.given layers.reverse))
    {x : f.Value} (hx : (mergeLayers layers).Gives f.part f.key f.read x) :
    (mergeLayers layers').Gives f.part f.key f.read x := by
  obtain ⟨lowest, hlowest, hplain, -⟩ := toSettings_gives {} f hf
  obtain ⟨v, hv, hread⟩ := hx
  refine ⟨v, ?_, hread⟩
  -- Both stacks stand on the same default and come down to what counts of them.
  rw [← Field.setting?, h'.setting?_mergeLayers hf hlowest, ← Setting.stack_deciding hplain, same,
    Setting.stack_deciding hplain, ← h.setting?_mergeLayers hf hlowest]
  exact hv

/-! ## Loading -/

/-- The result is that configuration, if it is valid, or else what is wrong with it. -/
structure Checked (result : Except LoadFault Config) (c : Config) : Prop where
  accepted : ∀ d, result = .ok d ↔ c.validate = .ok () ∧ d = c
  refused : ∀ fault, result = .error fault ↔
    ∃ wrong, c.validate = .error wrong ∧ fault = .invalid wrong

theorem checked_ofLayers (attempt : String) (h : ofSettings? (mergeLayers layers) = some c) :
    Checked (ofLayers attempt (some layers)) c := by
  rw [ofLayers, Option.bind_some, h]
  dsimp only
  cases hvalid : c.validate with
  | ok _ =>
    refine ⟨fun d => ⟨?_, ?_⟩, fun fault => ⟨nofun, ?_⟩⟩
    · rintro ⟨⟩
      exact ⟨hvalid, rfl⟩
    · rintro ⟨-, rfl⟩
      rfl
    · rintro ⟨wrong, hwrong, -⟩
      cases hvalid.symm.trans hwrong
  | error wrong =>
    refine ⟨fun d => ⟨nofun, ?_⟩, fun fault => ⟨?_, ?_⟩⟩
    · rintro ⟨hok, -⟩
      cases hvalid.symm.trans hok
    · rintro ⟨⟩
      exact ⟨wrong, hvalid, rfl⟩
    · rintro ⟨other, hother, rfl⟩
      cases hvalid.symm.trans hother
      rfl

theorem load_of_give (h : sources.Give main overrides environment) :
    load sources = ofLayers "Failed to extract configuration from figment"
      (some [main, overrides, environment]) := by
  rw [load, h.readEnvironment, h.readMain, h.readOverrides]
  rfl

theorem readable_of_give (h : sources.Give main overrides environment) :
    Readable [main, overrides, environment] := by
  have keyed : ∀ l ∈ [main, overrides, environment], l.Keyed := by
    simp only [List.forall_mem_cons]
    exact ⟨keyed_of_fileLayer? h.readMain, keyed_of_fileLayer? h.readOverrides,
      Settings.keyed_of_ofVariables? h.readEnvironment, nofun⟩
  exact fun l hl => ⟨keyed l hl, h.typed l hl⟩

/-- Two results are the same configuration or the same fault in one, or else nothing could be
read. -/
structure Agree (a b : Except LoadFault Config) : Prop where
  accepted : ∀ c, a = .ok c ↔ b = .ok c
  refused : ∀ wrong, a = .error (.invalid wrong) ↔ b = .error (.invalid wrong)

/-- A file is loaded as if it were the only source. -/
theorem loadFile_agree (path : String) (text : Option String) :
    Agree (loadFile path text) (load { main := text }) := by
  have hload : load { main := text } = ofLayers "Failed to extract configuration from figment"
      ((fileLayer? text).bind fun main => some [main, [], []]) := rfl
  have hfile : loadFile path text = ofLayers ("Failed to load config from " ++ path)
      ((fileLayer? text).bind fun main => some [main]) := rfl
  rw [hload, hfile]
  cases fileLayer? text with
  | none => exact ⟨fun c => ⟨nofun, nofun⟩, fun wrong => ⟨nofun, nofun⟩⟩
  | some main =>
    have hmerged : mergeLayers [main, [], []] = mergeLayers [main] := rfl
    rw [Option.bind_some, Option.bind_some, ofLayers, ofLayers, Option.bind_some, Option.bind_some,
      hmerged]
    cases ofSettings? (mergeLayers [main]) with
    | none => exact ⟨fun c => ⟨nofun, nofun⟩, fun wrong => ⟨nofun, nofun⟩⟩
    | some c => exact ⟨fun _ => .rfl, fun _ => .rfl⟩

/-! ## What the layers come to -/

/-- What is loaded from sources with some layers: a configuration each field of which is as its
highest layer gives it, if it is valid. -/
structure Layered (sources : ConfigSources) (main overrides environment : Settings) (c : Config) :
    Prop where
  /-- A field that no layer sets has its default. -/
  unset : ∀ f ∈ fields, f.given [environment, overrides, main] = [] → f.value c = f.value {}
  /-- A field that is no mode and no strategy has the value of the highest layer that sets it. -/
  simple : ∀ f ∈ fields, f.key ≠ "mode" → f.key ≠ "strategy" → ∀ v rest,
    f.given [environment, overrides, main] = v :: rest → f.read v = some (f.value c)
  /-- So has any field, unless that layer and the next one that sets it both give tables. -/
  highest : ∀ f ∈ fields, ∀ v rest, f.given [environment, overrides, main] = v :: rest →
    (v.isTable = false ∨ ∀ u ∈ rest.head?, u.isTable = false) → f.read v = some (f.value c)
  /-- Of tables that meet the one with the least key counts. -/
  decided : ∀ f ∈ fields, f.Decided (f.given [environment, overrides, main]) (f.value c)
  /-- The configuration is what comes of the sources, if it is valid. -/
  checked : Checked (load sources) c
  /-- Nothing but the settings that count for a field counts: no other key, and no setting that is
  overridden, be it valid or not. -/
  alike : ∀ (other : ConfigSources) (main' overrides' environment' : Settings),
    other.Give main' overrides' environment' →
    (∀ f ∈ fields, Setting.deciding (f.given [environment', overrides', main']) =
      Setting.deciding (f.given [environment, overrides, main])) → load other = load sources
  /-- A variable with the name of a field, in letters of either case, gives it its value, where the
  other variables leave the field alone. -/
  named : ∀ f ∈ fields, ∀ before name text after v,
    Settings.assigned sources.environment = before ++ (name, text) :: after →
    Text.asciiLowerText name = Text.asciiLowerText f.variableName →
    Setting.ofVariable? text = some v →
    (∀ other ∈ before ++ after, Variable.Spares f.part f.key other) →
    f.setting? environment = some v
  /-- The environment does not set a field that all its variables leave alone. -/
  unnamed : ∀ f ∈ fields,
    (∀ v ∈ Settings.assigned sources.environment, Variable.Spares f.part f.key v) →
    f.setting? environment = none

theorem exists_layered (h : sources.Give main overrides environment) :
    ∃ c, Layered sources main overrides environment c := by
  have hlayers := readable_of_give h
  obtain ⟨c, hgives, hdecided⟩ := hlayers.exists_merged
  refine ⟨c, ?_⟩
  have highest {f : Field} (hf : f ∈ fields) {v : Setting} {rest : List Setting}
      (hgiven : f.given [environment, overrides, main] = v :: rest)
      (plain : v.isTable = false ∨ ∀ u ∈ rest.head?, u.isTable = false) :
      f.read v = some (f.value c) := by
    have hvalue : f.Decided (f.given [environment, overrides, main]) (f.value c) := hdecided f hf
    rw [hgiven] at hvalue
    exact hvalue.highest plain
  have hloaded : load sources = ofLayers _ (some [main, overrides, environment]) := load_of_give h
  constructor
  case unset =>
    intro f hf hgiven
    have hvalue : f.Decided (f.given [environment, overrides, main]) (f.value c) := hdecided f hf
    exact hvalue.eq_default hgiven
  case simple =>
    intro f hf mode strategy v rest hgiven
    have hv : v ∈ f.given [environment, overrides, main] := hgiven ▸ List.mem_cons_self
    have taken : Setting.Taken f.read v := hlayers.taken hf v hv
    exact highest hf hgiven (.inl (isTable_of_read hf mode strategy taken.2))
  case highest => exact fun f hf v rest hgiven plain => highest hf hgiven plain
  case decided => exact hdecided
  case checked =>
    rw [hloaded]
    exact checked_ofLayers _ (ofSettings?_of_fields hgives)
  case alike =>
    intro other main' overrides' environment' h' same
    have hgives' : ∀ f ∈ fields,
        (mergeLayers [main', overrides', environment']).Gives f.part f.key f.read (f.value c) :=
      fun f hf => hlayers.gives_congr (readable_of_give h') hf (same f hf) (hgives f hf)
    rw [hloaded, load_of_give h', ofLayers, ofLayers, Option.bind_some, Option.bind_some,
      ofSettings?_of_fields hgives, ofSettings?_of_fields hgives']
  case named =>
    intro f hf before name text after v hsplit hname hvalue spared
    exact Settings.at?_ofVariables? h.readEnvironment hsplit
      ((Variable.path?_congr hname).trans (path?_variableName f hf)) hvalue spared
  case unnamed =>
    exact fun f _ spared => Settings.at?_ofVariables?_of_spared h.readEnvironment spared

theorem exists_typed (layer : Option Settings) (h : layer.any Settings.isTyped = true) :
    ∃ s, layer = some s ∧ s.isTyped = true := by
  obtain ⟨s, hs, typed⟩ := (Option.any_eq_true _ _).mp h
  exact ⟨s, hs, typed⟩

/-- Sources whose layers can be read are loaded field by field, from the highest layer that sets the
field; a file alone is loaded as if it were the only source; and of two files that are valid alone
the one over the other need not be valid. -/
theorem load_layered (sources : ConfigSources) :
    (∀ main overrides environment, sources.Give main overrides environment →
      ∃ c, Layered sources main overrides environment c) ∧
    (∀ path, Agree (loadFile path sources.main) (load { main := sources.main })) ∧
    ∃ (lower upper : String) (c d : Config) (wrong : ConfigFault),
      load { main := some lower } = .ok c ∧ load { overrides := some upper } = .ok d ∧
      load { main := some lower, overrides := some upper } = .error (.invalid wrong) := by
  refine ⟨fun _ _ _ => exists_layered, fun path => loadFile_agree path _, ?_⟩
  refine ⟨"worker:\n  interval_secs: 60\n", "worker:\n  lease_timeout_secs: 30\n",
    { worker := { interval := 60 } }, { worker := { leaseTimeout := 30 } },
    .leaseTimeout 30 60, ?_⟩
  decide +kernel

/-- Each source overrides one below it. The interval of the main file is not valid. -/
def contested : ConfigSources where
  main := some "worker:\n  interval_secs: 0\n  mode: !all\n  other: 1\nlogging:\n  level: debug\n"
  overrides := some "worker:\n  interval_secs: 7\n  mode: one\n"
  environment := [("HOME", "/"), ("Atlas_Logging__Level", "warn")]

/-- The value of the highest layer is loaded for each field. -/
theorem load_layered_contested : ∃ main overrides environment c,
    contested.Give main overrides environment ∧ Layered contested main overrides environment c ∧
      c = { logging := { level := "warn" }, worker := { interval := 7, mode := .one } } := by
  obtain ⟨main, hmain, mainTyped⟩ :=
    exists_typed (fileLayer? contested.main) (by decide +kernel)
  obtain ⟨overrides, hoverrides, overridesTyped⟩ :=
    exists_typed (fileLayer? contested.overrides) (by decide +kernel)
  obtain ⟨environment, henvironment, environmentTyped⟩ :=
    exists_typed (Settings.ofVariables? contested.environment) (by decide +kernel)
  have give : contested.Give main overrides environment :=
    ⟨hmain, hoverrides, henvironment, by simp [mainTyped, overridesTyped, environmentTyped]⟩
  obtain ⟨c, hc⟩ := (load_layered contested).1 main overrides environment give
  have hload : load contested =
      .ok { logging := { level := "warn" }, worker := { interval := 7, mode := .one } } := by
    decide +kernel
  exact ⟨main, overrides, environment, c, give, hc, ((hc.checked.accepted _).mp hload).2.symm⟩

/-- Two files that name the strategy by a tag. -/
def tagged : ConfigSources where
  main := some "resolution:\n  strategy: !resolve_all\n"
  overrides := some "resolution:\n  strategy: !resolve_none\n"

/-- The file that overrides the other gives the strategy to resolve nothing, and has its way alone,
but the strategy of the file below it is loaded. -/
theorem lower_tag_kept :
    (∃ main overrides, tagged.Give main overrides [] ∧
      (overrides.at? "resolution" "strategy").bind (Setting.variant? Participation.names) =
        some .resolveNone) ∧
    load { overrides := tagged.overrides } = .ok { resolution := { strategy := .resolveNone } } ∧
    load tagged = .ok { resolution := { strategy := .resolveAll } } := by
  obtain ⟨main, hmain, mainTyped⟩ :=
    exists_typed (fileLayer? tagged.main) (by decide +kernel)
  obtain ⟨overrides, hoverrides, overridesTyped⟩ :=
    exists_typed (fileLayer? tagged.overrides) (by decide +kernel)
  have given : (fileLayer? tagged.overrides).map (fun s =>
      (s.at? "resolution" "strategy").bind (Setting.variant? Participation.names)) =
        some (some .resolveNone) := by
    decide +kernel
  rw [hoverrides] at given
  refine ⟨⟨main, overrides, ⟨hmain, hoverrides, rfl, ?_⟩, Option.some.inj given⟩, ?_⟩
  · simp [mainTyped, overridesTyped, isTyped_nil]
  · decide +kernel

end Config

end Sheltering
