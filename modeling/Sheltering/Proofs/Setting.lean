import Mathlib.Data.List.Nodup
import Sheltering.Setting

/-!
# Tables of settings

* `Setting.Keyed`: every table in a setting has each key once.
* `Settings.lookup_merge`: what one table over another has under a key.
* `Settings.at?_merge`, `Settings.at?_foldl_merge`: what some tables over each other have under a
  key within a key.
-/

namespace Sheltering

namespace Setting

/-- The setting is a table. -/
def isTable : Setting → Bool
  | .table _ => true
  | _ => false

theorem isTable_iff {s : Setting} : s.isTable = true ↔ ∃ entries, s = .table entries := by
  cases s <;> simp [isTable]

theorem merge_table (lower upper : List (String × Setting)) :
    merge (.table lower) (.table upper) = .table (mergeEntries lower upper) := by
  rw [merge]

/-- What is no table takes the place of what is below. -/
theorem merge_of_plain {lower upper : Setting} (h : upper.isTable = false) :
    lower.merge upper = upper := by
  unfold merge
  split
  · cases h
  · rfl

/-- A table takes the place of what is no table. -/
theorem merge_of_plain_lower {lower upper : Setting} (h : lower.isTable = false) :
    lower.merge upper = upper := by
  unfold merge
  split
  · cases h
  · rfl

/-- Every table in the setting, at any depth, has each key once. -/
inductive Keyed : Setting → Prop
  | table {entries : List (String × Setting)} (keys : (entries.map Prod.fst).Nodup)
      (values : ∀ e ∈ entries, Keyed e.2) : Keyed (.table entries)
  | plain {s : Setting} (h : s.isTable = false) : Keyed s

end Setting

namespace Settings

variable {s lower upper : Settings} {key k : String} {value v : Setting}

/-! ## Entries -/

theorem lookup_cons (k : String) (e : String × Setting) (s : Settings) :
    List.lookup k (e :: s) = if k = e.1 then some e.2 else s.lookup k := by
  obtain ⟨l, u⟩ := e
  by_cases h : k = l
  · simp [h]
  · simp [List.lookup_cons, beq_eq_false_iff_ne.mpr h, h]

theorem lookup_eq_none (h : k ∉ s.map Prod.fst) : s.lookup k = none := by
  refine List.lookup_eq_none_iff.mpr fun e he => ?_
  rw [bne_iff_ne]
  rintro rfl
  exact h (List.mem_map_of_mem he)

theorem lookup_put (s : Settings) (key k : String) (value : Setting) :
    (put key value s).lookup k = if k = key then some value else s.lookup k := by
  induction s with
  | nil => rw [put, lookup_cons]
  | cons e s ih =>
    obtain ⟨l, u⟩ := e
    rw [put]
    split
    · rename_i hl
      simp only [lookup_cons, hl]
      split <;> rfl
    · rename_i hl
      simp only [lookup_cons, ih]
      split
      · rename_i hk
        rw [if_neg (hk ▸ hl)]
      · rfl

theorem mem_put {e : String × Setting} (h : e ∈ put key value s) : e = (key, value) ∨ e ∈ s := by
  induction s with
  | nil => exact .inl (List.mem_singleton.mp h)
  | cons d s ih =>
    rw [put] at h
    split at h
    · exact (List.mem_cons.mp h).imp_right (List.mem_cons_of_mem d)
    · rcases List.mem_cons.mp h with rfl | h
      · exact .inr List.mem_cons_self
      · exact (ih h).imp_right (List.mem_cons_of_mem d)

theorem keys_put (s : Settings) (key : String) (value : Setting) :
    (put key value s).map Prod.fst =
      if key ∈ s.map Prod.fst then s.map Prod.fst else s.map Prod.fst ++ [key] := by
  induction s with
  | nil => rfl
  | cons e s ih =>
    obtain ⟨l, u⟩ := e
    by_cases hl : l = key
    · simp [put, hl]
    · have hne : key ≠ l := fun h => hl h.symm
      simp only [put, hl, if_false, List.map_cons, ih, List.mem_cons, hne, false_or]
      split <;> rfl

/-- Every table in it, and the table itself, has each key once. -/
def Keyed (s : Settings) : Prop := (Setting.table s).Keyed

theorem keyed_iff : s.Keyed ↔ (s.map Prod.fst).Nodup ∧ ∀ e ∈ s, e.2.Keyed := by
  refine ⟨fun h => ?_, fun h => .table h.1 h.2⟩
  cases h with
  | table keys values => exact ⟨keys, values⟩
  | plain h => cases h

theorem keyed_nil : Keyed [] := keyed_iff.mpr ⟨List.nodup_nil, nofun⟩

theorem keyed_singleton (h : value.Keyed) : Keyed [(key, value)] :=
  keyed_iff.mpr ⟨List.nodup_singleton _, fun e he => by rwa [List.mem_singleton.mp he]⟩

theorem mem_of_lookup (h : s.lookup k = some v) : (k, v) ∈ s := by
  obtain ⟨before, after, rfl, -⟩ := List.lookup_eq_some_iff.mp h
  simp

theorem Keyed.lookup (h : s.Keyed) (hk : s.lookup k = some v) : v.Keyed :=
  (keyed_iff.mp h).2 _ (mem_of_lookup hk)

theorem Keyed.put (h : s.Keyed) (hv : value.Keyed) : (put key value s).Keyed := by
  obtain ⟨keys, values⟩ := keyed_iff.mp h
  refine keyed_iff.mpr ⟨?_, fun e he => ?_⟩
  · rw [keys_put]
    split
    · exact keys
    · exact List.concat_eq_append ▸ keys.concat ‹_›
  · rcases mem_put he with rfl | he
    · exact hv
    · exact values e he

theorem keyed_ofList {entries : List (String × Setting)} (h : ∀ e ∈ entries, e.2.Keyed) :
    (ofList entries).Keyed := by
  rw [ofList]
  have start : Keyed [] := keyed_nil
  generalize ([] : Settings) = table at start ⊢
  induction entries generalizing table with
  | nil => exact start
  | cons e entries ih =>
    obtain ⟨he, hentries⟩ := List.forall_mem_cons.mp h
    exact ih hentries _ (start.put he)

/-! ## One table over another -/

theorem lookup_mergeEntry (lower : Settings) (key k : String) (value : Setting) :
    (Setting.mergeEntry lower (key, value)).lookup k =
      if k = key then Option.merge Setting.merge (lower.lookup key) (some value)
      else lower.lookup k := by
  rw [Setting.mergeEntry]
  cases lower.lookup key <;> simp [lookup_put]

/-- Under a key, one table over another has what each of them has there, one over the other. -/
theorem lookup_merge (lower : Settings) (h : (upper.map Prod.fst).Nodup) (k : String) :
    (lower.merge upper).lookup k =
      Option.merge Setting.merge (lower.lookup k) (upper.lookup k) := by
  rw [merge]
  induction upper generalizing lower with
  | nil => cases hk : lower.lookup k <;> simp [Setting.mergeEntries, hk]
  | cons e upper ih =>
    obtain ⟨key, value⟩ := e
    obtain ⟨hkey, hnodup⟩ := List.nodup_cons.mp h
    rw [Setting.mergeEntries, ih _ hnodup, lookup_mergeEntry]
    simp only [lookup_cons]
    by_cases hk : k = key
    · subst hk
      rw [if_pos rfl, if_pos rfl, lookup_eq_none hkey]
      cases lower.lookup k <;> rfl
    · rw [if_neg hk, if_neg hk]

theorem keyed_mergeEntries {upper : List (String × Setting)}
    (merged : ∀ e ∈ upper, e.2.Keyed ∧ ∀ below : Setting, below.Keyed → (below.merge e.2).Keyed)
    (h : Keyed lower) : Keyed (Setting.mergeEntries lower upper) := by
  induction upper generalizing lower with
  | nil => rwa [Setting.mergeEntries]
  | cons e upper ih =>
    obtain ⟨key, value⟩ := e
    obtain ⟨⟨hvalue, hmerge⟩, hupper⟩ := List.forall_mem_cons.mp merged
    rw [Setting.mergeEntries, Setting.mergeEntry]
    refine ih hupper ?_
    split
    · exact h.put (hmerge _ (h.lookup ‹_›))
    · exact h.put hvalue

end Settings

namespace Setting

variable {lower upper : Setting}

/-- A setting over another has each key once where both do. -/
theorem Keyed.merge (hlower : lower.Keyed) (hupper : upper.Keyed) :
    (lower.merge upper).Keyed := by
  -- Along the upper one: its values are merged with whatever is below, so `lower` varies.
  induction hupper generalizing lower with
  | plain h =>
    rw [merge_of_plain h]
    exact .plain h
  | @table entries keys values ih =>
    cases hlower with
    | @table below _ _ =>
      rw [merge_table]
      exact Settings.keyed_mergeEntries (fun e he => ⟨values e he, fun _ h => ih e he h⟩)
        (.table ‹_› ‹_›)
    | plain h =>
      rw [merge_of_plain_lower h]
      exact .table keys values

/-- The setting under a key of a table. -/
def get? (key : String) : Setting → Option Setting
  | .table entries => entries.lookup key
  | _ => none

theorem get?_of_plain {s : Setting} (key : String) (h : s.isTable = false) : s.get? key = none := by
  cases s with
  | table => cases h
  | _ => rfl

/-- Under a key, a table over a setting has what each of them has there, one over the other. -/
theorem get?_merge (key : String) (keyed : upper.Keyed) (table : upper.isTable = true) :
    (lower.merge upper).get? key = Option.merge merge (lower.get? key) (upper.get? key) := by
  cases keyed with
  | plain h => exact absurd (h.symm.trans table) Bool.false_ne_true
  | @table entries keys _ =>
    by_cases hlower : lower.isTable = true
    · obtain ⟨below, rfl⟩ := isTable_iff.mp hlower
      rw [merge_table]
      exact Settings.lookup_merge below keys key
    · rw [Bool.not_eq_true] at hlower
      rw [merge_of_plain_lower hlower, get?_of_plain key hlower, Option.merge_none_left]

end Setting

namespace Settings

variable {s lower upper : Settings} {part key : String} {value v : Setting}

theorem Keyed.merge (hlower : lower.Keyed) (hupper : upper.Keyed) : (lower.merge upper).Keyed := by
  rw [Keyed, Settings.merge, ← Setting.merge_table]
  exact Setting.Keyed.merge hlower hupper

theorem keyed_nested {path : List String} (h : value.Keyed) : (nested path value).Keyed := by
  induction path with
  | nil => exact keyed_nil
  | cons key path ih =>
    cases path with
    | nil => exact keyed_singleton h
    | cons => exact keyed_singleton ih

/-! ## A key within a key -/

/-- The setting under a key of the table that is under a key. -/
def at? (s : Settings) (part key : String) : Option Setting := (s.lookup part).bind (·.get? key)

/-- What is under a key, if anything, is a table. -/
def isNested (s : Settings) (part : String) : Bool := (s.lookup part).all Setting.isTable

theorem Keyed.at? (h : s.Keyed) (hv : s.at? part key = some v) : v.Keyed := by
  obtain ⟨u, hu, hget⟩ := Option.bind_eq_some_iff.mp hv
  cases u with
  | table entries => exact Keyed.lookup (h.lookup hu) hget
  | _ => cases hget

/-- Where the upper table has no plain setting in the place of a table, what is under a key within a
key is that of the upper one over that of the lower one. -/
theorem at?_merge (keyed : upper.Keyed) (nested : upper.isNested part = true) :
    (lower.merge upper).at? part key =
      Option.merge Setting.merge (lower.at? part key) (upper.at? part key) := by
  simp only [at?, lookup_merge lower (keyed_iff.mp keyed).1]
  rw [isNested] at nested
  cases hupper : upper.lookup part with
  | none => simp
  | some u =>
    rw [hupper, Option.all_some] at nested
    cases hlower : lower.lookup part with
    | none => simp
    | some l => simp [Setting.get?_merge key (keyed.lookup hupper) nested]

/-- What is under a key within a key of some tables over another, from the lowest to the highest. -/
theorem at?_foldl_merge {layers : List Settings}
    (h : ∀ l ∈ layers, l.Keyed ∧ l.isNested part = true) :
    (layers.foldl merge s).at? part key =
      (layers.map (·.at? part key)).foldl (Option.merge Setting.merge) (s.at? part key) := by
  induction layers generalizing s with
  | nil => rfl
  | cons l layers ih =>
    obtain ⟨⟨keyed, nested⟩, hlayers⟩ := List.forall_mem_cons.mp h
    rw [List.foldl_cons, ih hlayers, at?_merge keyed nested, List.map_cons, List.foldl_cons]

end Settings

end Sheltering
