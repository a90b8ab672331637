import Mathlib.Data.List.Dedup
import Mathlib.Data.List.Induction
import Sheltering.Proofs.Instant.Chronology

/-!
# The table of sheltered bundles and its marks

A mark is a bundle with the reading of the clock when it was marked. Between two marks the clock may
have been moved in either direction.

* `lastMark?`: the reading of the clock when a bundle was marked last.
* `ShelterTable.ofMarks`: the table after some marks.
* `ShelterTable.Standing`, `ShelterTable.exists_standing`: the table has a row for each bundle with
  its last mark, and no other.
* `ShelterTable.Recounts`, `ShelterTable.recounts_marks`: what the table tells of its marks.
-/

namespace Sheltering

/-- The reading of the clock when a bundle was marked last. -/
def lastMark? (marks : List ShelteredBundle) (bundle : String) : Option Instant :=
  (marks.reverse.find? (·.bundle == bundle)).map (·.since)

variable {marks bundles : List ShelteredBundle} {bundle : String} {now : Instant}

theorem lastMark?_concat (marks : List ShelteredBundle) (m : ShelteredBundle) (bundle : String) :
    lastMark? (marks ++ [m]) bundle =
      if m.bundle = bundle then some m.since else lastMark? marks bundle := by
  rw [lastMark?, List.reverse_concat, List.find?_cons]
  by_cases h : m.bundle = bundle
  · rw [beq_iff_eq.mpr h, if_pos h]
    rfl
  · rw [beq_eq_false_iff_ne.mpr h, if_neg h]
    rfl

theorem exists_mark_of_lastMark? (h : lastMark? marks bundle = some now) :
    ∃ m ∈ marks, m.bundle = bundle ∧ m.since = now := by
  obtain ⟨m, hm, hsince⟩ := Option.map_eq_some_iff.mp h
  have hbundle := List.find?_some hm
  exact ⟨m, List.mem_reverse.mp (List.mem_of_find?_eq_some hm), beq_iff_eq.mp hbundle, hsince⟩

theorem exists_lastMark?_iff :
    (∃ now, lastMark? marks bundle = some now) ↔ bundle ∈ marks.map (·.bundle) := by
  rw [← Option.isSome_iff_exists, lastMark?, Option.isSome_map, List.find?_isSome]
  simp

namespace ShelterRow

theorem read_ofBundle {b : ShelteredBundle} (h : b.since.Storable) :
    (ofBundle b).read = .ok { b with since := b.since.toMicros } := by
  rw [ofBundle, read, Instant.read_stored h]
  rfl

end ShelterRow

namespace ShelterTable

/-- The table after some marks, which began empty. -/
def ofMarks (marks : List ShelteredBundle) : ShelterTable :=
  marks.foldl (fun t m => t.mark m.bundle m.since) {}

theorem ofMarks_concat (marks : List ShelteredBundle) (m : ShelteredBundle) :
    ofMarks (marks ++ [m]) = (ofMarks marks).mark m.bundle m.since := by
  rw [ofMarks, List.foldl_append]
  rfl

/-! ## A row for each bundle -/

/-- The bundles that were marked, each once and with its last mark. -/
structure Standing (marks bundles : List ShelteredBundle) : Prop where
  once : (bundles.map (·.bundle)).Nodup
  mem : ∀ b, b ∈ bundles ↔ lastMark? marks b.bundle = some b.since

theorem Standing.mem_map (h : Standing marks bundles) :
    bundle ∈ bundles.map (·.bundle) ↔ bundle ∈ marks.map (·.bundle) := by
  refine Iff.trans ?_ exists_lastMark?_iff
  constructor
  · intro hbundle
    obtain ⟨b, hb, rfl⟩ := List.mem_map.mp hbundle
    exact ⟨_, (h.mem b).mp hb⟩
  · rintro ⟨now, hnow⟩
    exact List.mem_map.mpr ⟨⟨bundle, now⟩, (h.mem _).mpr hnow, rfl⟩

/-- A bundle that was marked before gets its new mark in its place. -/
theorem Standing.remark (h : Standing marks bundles) {m : ShelteredBundle}
    (hm : m.bundle ∈ bundles.map (·.bundle)) :
    Standing (marks ++ [m]) (bundles.map fun b => if b.bundle == m.bundle then m else b) := by
  have hkeep : ∀ b ∈ bundles, (if b.bundle == m.bundle then m else b).bundle = b.bundle := by
    intro b _
    split
    · rename_i he
      exact (beq_iff_eq.mp he).symm
    · rfl
  refine ⟨?_, fun b => ?_⟩
  · rw [List.map_map, List.map_congr_left (f := _ ∘ _) (g := (·.bundle)) hkeep]
    exact h.once
  · rw [lastMark?_concat, List.mem_map]
    constructor
    · rintro ⟨c, hc, rfl⟩
      split
      · exact if_pos rfl
      · rename_i hne
        rw [if_neg (fun he => hne (beq_iff_eq.mpr he.symm))]
        exact (h.mem c).mp hc
    · intro hb
      by_cases he : m.bundle = b.bundle
      · obtain ⟨c, hc, hbundle⟩ := List.mem_map.mp hm
        rw [if_pos he] at hb
        refine ⟨c, hc, ?_⟩
        rw [if_pos (beq_iff_eq.mpr hbundle)]
        obtain ⟨mbundle, msince⟩ := m
        obtain ⟨bbundle, bsince⟩ := b
        exact ShelteredBundle.mk.injEq .. ▸ ⟨he, Option.some.inj hb⟩
      · rw [if_neg he] at hb
        refine ⟨b, (h.mem b).mpr hb, if_neg fun heq => he (beq_iff_eq.mp heq).symm⟩

/-- A bundle that was not marked before is put in behind the others. -/
theorem Standing.first (h : Standing marks bundles) {m : ShelteredBundle}
    (hm : m.bundle ∉ bundles.map (·.bundle)) : Standing (marks ++ [m]) (bundles ++ [m]) := by
  refine ⟨?_, fun b => ?_⟩
  · rw [List.map_append, List.nodup_append_comm]
    exact List.nodup_cons.mpr ⟨hm, h.once⟩
  · rw [lastMark?_concat, List.mem_append, List.mem_singleton]
    by_cases he : m.bundle = b.bundle
    · rw [if_pos he]
      constructor
      · rintro (hb | rfl)
        · exact absurd (he ▸ List.mem_map_of_mem hb) hm
        · rfl
      · intro hb
        obtain ⟨mbundle, msince⟩ := m
        obtain ⟨bbundle, bsince⟩ := b
        exact .inr (ShelteredBundle.mk.injEq .. ▸ ⟨he.symm, (Option.some.inj hb).symm⟩)
    · rw [if_neg he, ← h.mem]
      exact ⟨fun hb => hb.resolve_right fun hbm => he (hbm ▸ rfl), .inl⟩

theorem any_ofBundle : ((bundles.map ShelterRow.ofBundle).any (·.bundle == bundle)) = true ↔
    bundle ∈ bundles.map (·.bundle) := by
  simp only [List.any_map, List.any_eq_true, Function.comp, ShelterRow.ofBundle, beq_iff_eq,
    List.mem_map]

/-- The table has a row for each bundle with its last mark, and no other. -/
theorem exists_standing (marks : List ShelteredBundle) :
    ∃ bundles, Standing marks bundles ∧ ofMarks marks = ⟨bundles.map ShelterRow.ofBundle⟩ := by
  induction marks using List.reverseRecOn with
  | nil => exact ⟨[], ⟨List.nodup_nil, fun b => by simp [lastMark?]⟩, rfl⟩
  | append_singleton marks m ih =>
    obtain ⟨bundles, h, ht⟩ := ih
    rw [ofMarks_concat, ht, mark]
    split
    · rename_i hany
      refine ⟨_, h.remark (any_ofBundle.mp hany), congrArg mk ?_⟩
      rw [List.map_map, List.map_map]
      refine List.map_congr_left fun b _ => ?_
      by_cases he : b.bundle = m.bundle
      · simp [ShelterRow.ofBundle, he]
      · simp [ShelterRow.ofBundle, he]
    · rename_i hany
      refine ⟨_, h.first fun hm => hany (any_ofBundle.mpr hm), ?_⟩
      rw [List.map_append]
      rfl

/-! ## What the table tells -/

/-- Bundles that are listed as marked last. -/
structure IsRecent (marks : List ShelteredBundle) (limit : Nat) (shown : List ShelteredBundle) :
    Prop where
  /-- There are as many as there is room for, or as were marked. -/
  length : shown.length = min limit (marks.map (·.bundle)).dedup.length
  once : (shown.map (·.bundle)).Nodup
  /-- Each comes with its last mark, whether or not it had an earlier or a later one before. -/
  last : ∀ b ∈ shown, ∃ now, lastMark? marks b.bundle = some now ∧ b.since = now.toMicros
  sorted : shown.Pairwise fun a b => b.since ≤ a.since
  /-- No bundle that is left out was marked later than one that is shown. -/
  latest : ∀ bundle now, lastMark? marks bundle = some now → bundle ∉ shown.map (·.bundle) →
    ∀ b ∈ shown, now.toMicros ≤ b.since

/-- What a table tells of the marks that it was given. -/
structure Recounts (marks : List ShelteredBundle) (t : ShelterTable) : Prop where
  marked : ∀ bundle, t.contains bundle = true ↔ bundle ∈ marks.map (·.bundle)
  /-- What was marked stays marked, whatever is marked later. -/
  stays : ∀ later bundle, t.contains bundle = true →
    (ofMarks (marks ++ later)).contains bundle = true
  /-- A mark at the reading of the last one changes nothing. -/
  again : ∀ bundle now, lastMark? marks bundle = some now → t.mark bundle now = t
  recent : ∀ limit, ∃ shown, t.recent limit = .ok shown ∧ IsRecent marks limit shown

theorem contains_ofMarks :
    (ofMarks marks).contains bundle = true ↔ bundle ∈ marks.map (·.bundle) := by
  obtain ⟨bundles, h, ht⟩ := exists_standing marks
  rw [ht]
  exact any_ofBundle.trans h.mem_map

/-- A mark at the reading of the last one changes nothing. -/
theorem mark_last (h : lastMark? marks bundle = some now) :
    (ofMarks marks).mark bundle now = ofMarks marks := by
  have hmarked := contains_ofMarks.mpr (exists_lastMark?_iff.mp ⟨now, h⟩)
  obtain ⟨bundles, hb, ht⟩ := exists_standing marks
  rw [contains, ht] at hmarked
  rw [ht, mark, if_pos hmarked, List.map_map]
  refine congrArg mk (List.map_congr_left fun b hmem => ?_)
  rw [Function.comp]
  split
  · rename_i he
    have hlast := (hb.mem b).mp hmem
    rw [show b.bundle = bundle from beq_iff_eq.mp he, h] at hlast
    rw [Option.some.inj hlast]
    rfl
  · rfl

/-- As many bundles stand as were marked. -/
theorem Standing.length (h : Standing marks bundles) :
    bundles.length = (marks.map (·.bundle)).dedup.length := by
  have hperm : (bundles.map (·.bundle)).Perm (marks.map (·.bundle)).dedup := by
    refine (List.perm_ext_iff_of_nodup h.once (List.nodup_dedup _)).mpr fun bundle => ?_
    rw [List.mem_dedup, h.mem_map]
  rw [← hperm.length_eq, List.length_map]

/-- The bundles that stand, latest first and cut at a limit, are those marked last. -/
theorem Standing.isRecent (h : Standing marks bundles) (limit : Nat) :
    IsRecent marks limit (((latest (·.since.toMicros) bundles).take limit).map fun b =>
      { b with since := b.since.toMicros }) where
  length := by
    rw [List.length_map, List.length_take, latest_perm.length_eq, h.length]
  once := by
    have hall : ((latest (·.since.toMicros) bundles).map (·.bundle)).Nodup :=
      (latest_perm.map _).nodup_iff.mpr h.once
    rw [List.map_map]
    exact hall.sublist ((List.take_sublist _ _).map _)
  last := by
    intro b hb
    obtain ⟨c, hc, rfl⟩ := List.mem_map.mp hb
    exact ⟨c.since, (h.mem c).mp (latest_perm.mem_iff.mp (List.mem_of_mem_take hc)), rfl⟩
  sorted := List.pairwise_map.mpr (pairwise_latest.sublist (List.take_sublist _ _))
  latest := by
    intro bundle now hnow hout b hb
    obtain ⟨c, hc, rfl⟩ := List.mem_map.mp hb
    have hmem : ⟨bundle, now⟩ ∈ latest (·.since.toMicros) bundles :=
      latest_perm.mem_iff.mpr ((h.mem ⟨bundle, now⟩).mpr hnow)
    rw [← List.take_append_drop limit (latest _ bundles), List.mem_append] at hmem
    have hcut := hmem.resolve_left fun htaken =>
      hout (List.mem_map.mpr ⟨_, List.mem_map_of_mem htaken, rfl⟩)
    have hsorted : (latest (·.since.toMicros) bundles).Pairwise fun a b =>
      b.since.toMicros ≤ a.since.toMicros := pairwise_latest
    exact rel_of_take_of_drop hsorted limit hc hcut

/-- The table has one entry for each bundle that was marked, with its last mark, and lists them from
the latest on. -/
theorem recounts_marks (h : ∀ m ∈ marks, m.since.Storable) : Recounts marks (ofMarks marks) where
  marked _ := contains_ofMarks
  stays later bundle hmarked := by
    rw [contains_ofMarks] at hmarked ⊢
    rw [List.map_append]
    exact List.mem_append_left _ hmarked
  again _ _ := mark_last
  recent limit := by
    obtain ⟨bundles, hb, ht⟩ := exists_standing marks
    have hstorable : ∀ b ∈ bundles, b.since.Storable := by
      intro b hmem
      obtain ⟨m, hm, -, hsince⟩ := exists_mark_of_lastMark? ((hb.mem b).mp hmem)
      exact hsince ▸ h m hm
    refine ⟨_, ?_, hb.isRecent limit⟩
    rw [recent, ht, latestFirst_ofBundle hstorable]
    exact mapM_take_latest (fun b hmem => ShelterRow.read_ofBundle (hstorable b hmem)) limit

namespace SetBack

/-- A bundle is marked again after the clock was set back by two minutes, to before the mark of
another one. -/
def history : List ShelteredBundle :=
  [⟨"x", ⟨1714521600, 1999⟩⟩, ⟨"y", ⟨1714521540, 0⟩⟩, ⟨"x", ⟨1714521480, 1999⟩⟩]

/-- Each bundle with its last mark. -/
def standing : List ShelteredBundle :=
  [⟨"x", ⟨1714521480, 1999⟩⟩, ⟨"y", ⟨1714521540, 0⟩⟩]

end SetBack

open SetBack in
/-- The bundle is listed with its last mark, which is its earliest. -/
theorem recounts_marks_set_back :
    (∀ m ∈ history, m.since.Storable) ∧ Recounts history (ofMarks history) ∧
    (ofMarks history).contains "x" = true ∧ (ofMarks history).contains "z" = false ∧
    lastMark? history "x" = some ⟨1714521480, 1999⟩ ∧
    (ofMarks history).mark "x" ⟨1714521480, 1999⟩ = ofMarks history ∧
    (ofMarks history).recent 5 = .ok [⟨"y", ⟨1714521540, 0⟩⟩, ⟨"x", ⟨1714521480, 1000⟩⟩] := by
  have h : ∀ m ∈ history, m.since.Storable := by decide
  have hrecounts := recounts_marks h
  have hlast : lastMark? history "x" = some ⟨1714521480, 1999⟩ := by decide
  refine ⟨h, hrecounts, (hrecounts.marked "x").mpr (by decide), by decide, hlast,
    hrecounts.again _ _ hlast, ?_⟩
  have htable : ofMarks history = ⟨standing.map ShelterRow.ofBundle⟩ := by decide
  have horder : latest (·.since.toMicros) standing = standing.reverse := by
    simp +decide [latest, standing, List.mergeSort, List.MergeSort.Internal.splitInTwo]
  rw [recent, htable, latestFirst_ofBundle (by decide), horder]
  rfl

end ShelterTable

end Sheltering
