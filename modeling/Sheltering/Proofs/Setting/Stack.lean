import Mathlib.Data.List.TakeWhile
import Mathlib.Data.String.Basic
import Sheltering.Proofs.Setting

/-!
# Settings over each other

Of settings over each other the uppermost counts. Only tables that meet are united, and what is read
of a table that names a variant is the variant of its least key.

* `Setting.Unites`: a reader reads united tables like the one with the lesser key.
* `Setting.deciding`: the settings of a stack that count.
* `Setting.read_stack`: a stack is read like the one of them with the least key.
-/

namespace Sheltering

/-! ## Tables that name a variant -/

namespace Setting

variable {α : Type} {names : List (String × α)} {a b : Setting}
  {entries lower upper : List (String × Setting)} {e : String × Setting}

/-- The entry of a table with the least key. -/
structure IsLeastEntry (entries : List (String × Setting)) (e : String × Setting) : Prop where
  lookup : entries.lookup e.1 = some e.2
  le : ∀ k v, entries.lookup k = some v → e.1 ≤ k

theorem IsLeastEntry.unique {d : String × Setting} (hd : IsLeastEntry entries d)
    (he : IsLeastEntry entries e) : d = e := by
  have hkey : d.1 = e.1 := le_antisymm (hd.le _ _ he.lookup) (he.le _ _ hd.lookup)
  have hvalue := hd.lookup
  rw [hkey, he.lookup] at hvalue
  exact Prod.ext hkey (Option.some.inj hvalue).symm

theorem eq_nil_of_least_eq_none (h : leastEntry? entries = none) : entries = [] := by
  cases entries with
  | nil => rfl
  | cons d entries =>
    rw [ leastEntry?] at h
    split at h
    · split at h <;> cases h
    · cases h

theorem isLeastEntry_singleton (d : String × Setting) : IsLeastEntry [d] d := by
  refine ⟨by rw [Settings.lookup_cons, if_pos rfl], fun k v hk => ?_⟩
  rw [Settings.lookup_cons] at hk
  split at hk
  · exact ‹k = d.1› ▸ le_rfl
  · cases hk

theorem isLeastEntry_of_eq_some (h : leastEntry? entries = some e) :
    IsLeastEntry entries e := by
  induction entries generalizing e with
  | nil => cases h
  | cons d entries ih =>
    rw [ leastEntry?] at h
    split at h
    · rename_i least hleast
      have ⟨hlookup, hle⟩ := ih hleast
      split at h
      · rename_i hlt
        cases h
        refine ⟨?_, fun k v hk => ?_⟩
        · rw [Settings.lookup_cons, if_neg hlt.ne, hlookup]
        · rw [Settings.lookup_cons] at hk
          split at hk
          · exact ‹k = d.1› ▸ hlt.le
          · exact hle k v hk
      · rename_i hlt
        cases h
        refine ⟨by rw [Settings.lookup_cons, if_pos rfl], fun k v hk => ?_⟩
        rw [Settings.lookup_cons] at hk
        split at hk
        · exact ‹k = d.1› ▸ le_rfl
        · exact (not_lt.mp hlt).trans (hle k v hk)
    · rename_i hnone
      cases h
      rw [eq_nil_of_least_eq_none hnone]
      exact isLeastEntry_singleton d

theorem least_eq_some_iff : leastEntry? entries = some e ↔ IsLeastEntry entries e := by
  refine ⟨isLeastEntry_of_eq_some, fun h => ?_⟩
  cases hleast : leastEntry? entries with
  | some d => rw [(isLeastEntry_of_eq_some hleast).unique h]
  | none =>
    have hlookup := h.lookup
    rw [eq_nil_of_least_eq_none hleast] at hlookup
    cases hlookup

/-- The least key of a table. -/
def leastKey : Setting → String
  | .table entries => (( leastEntry? entries).map Prod.fst).getD ""
  | _ => ""

theorem leastKey_table (h : IsLeastEntry entries e) : leastKey (.table entries) = e.1 := by
  rw [leastKey, least_eq_some_iff.mpr h]
  rfl

theorem variant?_table (h : IsLeastEntry entries (key, .null)) :
    variant? names (.table entries) = names.lookup key := by
  rw [variant?, least_eq_some_iff.mpr h]

theorem exists_isLeastEntry (h : (variant? names (.table entries)).isSome = true) :
    ∃ key, IsLeastEntry entries (key, .null) := by
  rw [variant?] at h
  split at h
  · rename_i name hleast
    exact ⟨name, least_eq_some_iff.mp hleast⟩
  · cases h

/-- Of two tables that name variants, united, the lesser name is the least key. -/
theorem IsLeastEntry.merge {k l : String} (keys : (upper.map Prod.fst).Nodup)
    (hlower : IsLeastEntry lower (k, .null)) (hupper : IsLeastEntry upper (l, .null)) :
    IsLeastEntry (mergeEntries lower upper) (min k l, .null) := by
  have hlookup := Settings.lookup_merge lower keys
  rw [Settings.merge] at hlookup
  refine ⟨?_, fun m v hm => ?_⟩
  · rw [hlookup]
    -- The lesser key is in one of the tables only, or in both, and then the upper one has it.
    rcases lt_or_ge k l with hlt | hle
    · have hnone : upper.lookup k = none := by
        by_contra hsome
        obtain ⟨v, hv⟩ := Option.ne_none_iff_exists'.mp hsome
        exact absurd (hupper.le k v hv) (not_le.mpr hlt)
      rw [min_eq_left hlt.le, hnone, hlower.lookup]
      rfl
    · rw [min_eq_right hle, hupper.lookup]
      cases lower.lookup l with
      | none => rfl
      | some below => exact congrArg some (merge_of_plain rfl)
  · rw [hlookup] at hm
    cases hl : lower.lookup m with
    | some v => exact min_le_of_left_le (hlower.le m v hl)
    | none =>
      cases hu : upper.lookup m with
      | some v => exact min_le_of_right_le (hupper.le m v hu)
      | none =>
        rw [hl, hu] at hm
        cases hm

/-- The setting is read like another and has the same least key. -/
def Echoes (read : Setting → Option α) (a b : Setting) : Prop :=
  read a = read b ∧ a.leastKey = b.leastKey

/-- Tables that are read, united, are read like the one with the lesser key. -/
def Unites (read : Setting → Option α) : Prop :=
  ∀ a b : Setting, b.Keyed → a.isTable = true → b.isTable = true →
    (read a).isSome = true → (read b).isSome = true →
      (Echoes read (a.merge b) a ∧ a.leastKey ≤ b.leastKey) ∨
      (Echoes read (a.merge b) b ∧ b.leastKey ≤ a.leastKey)

/-- So does any reader that takes no tables. -/
theorem unites_of_plain {read : Setting → Option α}
    (h : ∀ entries, read (.table entries) = none) : Unites read := by
  intro a b _ ha _ hread
  obtain ⟨entries, rfl⟩ := isTable_iff.mp ha
  rw [h entries] at hread
  cases hread

theorem unites_variant? (names : List (String × α)) : Unites (variant? names) := by
  intro a b keyed ha hb hreada hreadb
  obtain ⟨lower, rfl⟩ := isTable_iff.mp ha
  obtain ⟨upper, rfl⟩ := isTable_iff.mp hb
  obtain ⟨k, hk⟩ := exists_isLeastEntry hreada
  obtain ⟨l, hl⟩ := exists_isLeastEntry hreadb
  have hmerged := hk.merge (Settings.keyed_iff.mp keyed).1 hl
  simp only [Echoes, merge_table, variant?_table hmerged, variant?_table hk, variant?_table hl,
    leastKey_table hmerged, leastKey_table hk, leastKey_table hl]
  rcases le_total k l with hle | hle
  · rw [min_eq_left hle]
    exact .inl ⟨⟨rfl, rfl⟩, hle⟩
  · rw [min_eq_right hle]
    exact .inr ⟨⟨rfl, rfl⟩, hle⟩

/-! ## Stacks -/

/-- Settings over a lowest one, the uppermost first. -/
def stack (lowest : Setting) (settings : List Setting) : Setting :=
  settings.foldr (fun upper lower => lower.merge upper) lowest

/-- The settings of a stack that count, the uppermost first: the first, and where it is a table also
the tables right beneath it. -/
def deciding : List Setting → List Setting
  | [] => []
  | s :: rest => s :: if s.isTable then rest.takeWhile isTable else []

variable {lowest s : Setting} {settings : List Setting} {read : Setting → Option α}

theorem stack_cons : stack lowest (s :: settings) = (stack lowest settings).merge s := rfl

/-- What several sources give, from the lowest to the highest, is a stack. -/
theorem foldl_merge_map {β : Type} (given : β → Option Setting) (sources : List β)
    (lowest : Setting) :
    (sources.map given).foldl (Option.merge merge) (some lowest) =
      some (stack lowest (sources.reverse.filterMap given)) := by
  induction sources generalizing lowest with
  | nil => rfl
  | cons source sources ih =>
    rw [List.map_cons, List.foldl_cons, List.reverse_cons, List.filterMap_append]
    cases hgiven : given source with
    | none => simp [ih, hgiven]
    | some s => simp [ih, hgiven, stack]

/-- Under a table, only the tables right beneath it count. -/
theorem stack_takeWhile (hlowest : lowest.isTable = false) (hs : s.isTable = true) :
    (stack lowest settings).merge s = (stack lowest (settings.takeWhile isTable)).merge s := by
  induction settings generalizing s with
  | nil => rfl
  | cons u settings ih =>
    by_cases hu : u.isTable = true
    · rw [List.takeWhile_cons_of_pos hu, stack_cons, stack_cons, ih hu]
    · rw [List.takeWhile_cons_of_neg hu, stack_cons]
      rw [Bool.not_eq_true] at hu
      rw [merge_of_plain hu, merge_of_plain_lower hu]
      exact (merge_of_plain_lower hlowest).symm

theorem deciding_subset (settings : List Setting) : deciding settings ⊆ settings := by
  cases settings with
  | nil => exact List.Subset.refl []
  | cons s rest =>
    rw [deciding]
    split
    · exact List.cons_subset_cons s (List.takeWhile_subset _)
    · exact List.cons_subset_cons s (List.nil_subset rest)

/-- A setting counts alone unless it and the next one are tables. -/
theorem deciding_of_plain {rest : List Setting}
    (h : s.isTable = false ∨ ∀ u ∈ rest.head?, u.isTable = false) : deciding (s :: rest) = [s] := by
  rw [deciding]
  split
  · rename_i hs
    rcases h with h | h
    · exact absurd hs (Bool.eq_false_iff.mp h)
    · cases rest with
      | nil => rfl
      | cons u rest => rw [List.takeWhile_cons_of_neg (Bool.eq_false_iff.mp (h u rfl))]
  · rfl

theorem stack_deciding (hlowest : lowest.isTable = false) (settings : List Setting) :
    stack lowest (deciding settings) = stack lowest settings := by
  cases settings with
  | nil => rfl
  | cons s rest =>
    rw [deciding, stack_cons, stack_cons]
    split
    · exact (stack_takeWhile hlowest ‹_›).symm
    · rw [merge_of_plain (Bool.not_eq_true _ ▸ ‹_›), merge_of_plain (Bool.not_eq_true _ ▸ ‹_›)]

/-- A setting that a reader takes, with each key once. -/
def Taken (read : Setting → Option α) (s : Setting) : Prop := s.Keyed ∧ (read s).isSome = true

/-- A table over any setting is a table. -/
theorem isTable_merge (lower : Setting) (hs : s.isTable = true) :
    (lower.merge s).isTable = true := by
  by_cases h : lower.isTable = true
  · obtain ⟨below, rfl⟩ := isTable_iff.mp h
    obtain ⟨entries, rfl⟩ := isTable_iff.mp hs
    rw [merge_table]
    rfl
  · rw [merge_of_plain_lower (Bool.not_eq_true _ ▸ h)]
    exact hs

/-- Tables over each other are read like the one of them with the least key. -/
theorem read_tables (hunites : Unites read) (hlowest : lowest.isTable = false)
    (htables : ∀ u ∈ s :: settings, u.isTable = true)
    (htaken : ∀ u ∈ s :: settings, Taken read u) :
    ∃ t ∈ s :: settings, Echoes read (stack lowest (s :: settings)) t ∧
      ∀ u ∈ s :: settings, t.leastKey ≤ u.leastKey := by
  -- What is beneath is itself read like one of the tables, so that the uppermost meets one table.
  induction settings generalizing s with
  | nil =>
    refine ⟨s, List.mem_singleton_self s, ?_, fun u hu => (List.mem_singleton.mp hu ▸ le_rfl)⟩
    rw [stack_cons]
    exact merge_of_plain_lower hlowest ▸ ⟨rfl, rfl⟩
  | cons below settings ih =>
    obtain ⟨hs, htables⟩ := List.forall_mem_cons.mp htables
    obtain ⟨⟨keyed, hread⟩, htaken⟩ := List.forall_mem_cons.mp htaken
    obtain ⟨t, ht, hechoes, hleast⟩ := ih htables htaken
    have hbelow : (stack lowest (below :: settings)).isTable = true :=
      isTable_merge _ (htables below List.mem_cons_self)
    have htread : (read (stack lowest (below :: settings))).isSome = true := by
      rw [hechoes.1]
      exact (htaken t ht).2
    rw [stack_cons]
    rcases hunites _ s keyed hbelow hs htread hread with ⟨hlower, hle⟩ | ⟨hupper, hle⟩
    · refine ⟨t, List.mem_cons_of_mem s ht, ?_, List.forall_mem_cons.mpr ⟨?_, hleast⟩⟩
      · exact ⟨hlower.1.trans hechoes.1, hlower.2.trans hechoes.2⟩
      · exact hechoes.2 ▸ hle
    · refine ⟨s, List.mem_cons_self, hupper, List.forall_mem_cons.mpr ⟨le_rfl, fun u hu => ?_⟩⟩
      exact (hechoes.2 ▸ hle).trans (hleast u hu)

/-- A stack is read like that of the settings that count which has the least key. -/
theorem read_stack (hunites : Unites read) (hlowest : lowest.isTable = false)
    (htaken : ∀ u ∈ s :: settings, Taken read u) :
    ∃ t ∈ deciding (s :: settings), read (stack lowest (s :: settings)) = read t ∧
      ∀ u ∈ deciding (s :: settings), t.leastKey ≤ u.leastKey := by
  by_cases hs : s.isTable = true
  · rw [← stack_deciding hlowest, deciding, if_pos hs]
    have htables : ∀ u ∈ s :: settings.takeWhile isTable, u.isTable = true :=
      List.forall_mem_cons.mpr ⟨hs, fun u hu => List.mem_takeWhile_imp hu⟩
    obtain ⟨t, ht, hechoes, hleast⟩ := read_tables hunites hlowest htables
      fun u hu => htaken u (List.cons_subset_cons s (List.takeWhile_subset _) hu)
    exact ⟨t, ht, hechoes.1, hleast⟩
  · rw [deciding, if_neg hs, stack_cons, merge_of_plain (Bool.not_eq_true _ ▸ hs)]
    exact ⟨s, List.mem_singleton_self s, rfl, fun u hu => (List.mem_singleton.mp hu ▸ le_rfl)⟩

end Setting

end Sheltering
