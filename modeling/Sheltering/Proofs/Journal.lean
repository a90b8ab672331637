import Mathlib.Data.List.Induction
import Sheltering.Proofs.Instant.Chronology
import Sheltering.Proofs.Json.Spelling
import Sheltering.Proofs.Uuid

/-!
# The journal and what was stored in it

* `JournalTable.kept`: the entries that are kept of some that were to be stored, each the first of
  its identifier.
* `JournalTable.ofCalls`: the table after some calls, which began empty.
* `JournalTable.rows_ofCalls`: its rows are those of the entries that are kept.
* `JournalRow.read_ofEntry`: the row of an entry is read as that entry, its time to the microsecond.
* `JournalTable.Recounts`, `JournalTable.recounts_calls`: what the journal tells of its calls.
-/

namespace Sheltering

/-- An entry that can be written and read again. -/
structure JournalEntry.Storable (e : JournalEntry) : Prop where
  time : e.time.Storable
  details : ∀ v ∈ e.details, v.IsPlain Written.depthLimit

/-- The entry with its time to the microsecond. -/
def JournalEntry.toMicros (e : JournalEntry) : JournalEntry := { e with time := e.time.toMicros }

namespace JournalRow

variable {e : JournalEntry}

theorem readDetails_render {v : Json} (h : v.IsPlain Written.depthLimit) :
    readDetails v.render = .ok v := by
  rw [readDetails, Json.ofText?_render h]

theorem ofName?_name (level : JournalLevel) : JournalLevel.ofName? level.name = some level := by
  cases level <;> decide

/-- The row of an entry is read as that entry, its time to the microsecond. -/
theorem read_ofEntry (h : e.Storable) : (ofEntry e).read = .ok e.toMicros := by
  have hid : Column.uuid e.id.text = .ok e.id := by rw [Column.uuid, Uuid.ofText?_text]
  have hdetails : (e.details.map Json.render).mapM readDetails = .ok e.details := by
    obtain hnone | ⟨v, hv⟩ := Option.eq_none_or_eq_some e.details
    · rw [hnone]
      rfl
    · rw [hv]
      simp [readDetails_render (h.details v hv)]
  simp only [read, ofEntry, ofName?_name, hdetails, hid, Instant.read_stored h.time]
  rfl

end JournalRow

namespace JournalTable

variable {calls : List JournalEntry} {e : JournalEntry}

/-- The entries that are kept of some that were to be stored, each the first of its identifier. -/
def kept (calls : List JournalEntry) : List JournalEntry :=
  calls.foldl (fun kept e => if e.id ∈ kept.map (·.id) then kept else kept ++ [e]) []

/-- The table after some calls to store entries, which began empty. A call that fails leaves it. -/
def ofCalls (calls : List JournalEntry) : JournalTable :=
  calls.foldl (fun t e => (t.store e).toOption.getD t) {}

theorem kept_concat (calls : List JournalEntry) (e : JournalEntry) : kept (calls ++ [e]) =
    if e.id ∈ (kept calls).map (·.id) then kept calls else kept calls ++ [e] := by
  rw [kept, List.foldl_append]
  rfl

theorem ofCalls_concat (calls : List JournalEntry) (e : JournalEntry) :
    ofCalls (calls ++ [e]) = ((ofCalls calls).store e).toOption.getD (ofCalls calls) := by
  rw [ofCalls, List.foldl_append]
  rfl

theorem kept_subset : kept calls ⊆ calls := by
  induction calls using List.reverseRecOn with
  | nil => exact List.Subset.refl _
  | append_singleton calls e ih =>
    rw [kept_concat]
    split
    · exact List.subset_append_of_subset_left _ ih
    · exact List.append_subset.mpr
        ⟨List.subset_append_of_subset_left _ ih, List.subset_append_right _ _⟩

theorem nodup_kept : ((kept calls).map (·.id)).Nodup := by
  induction calls using List.reverseRecOn with
  | nil => exact List.nodup_nil
  | append_singleton calls e ih =>
    rw [kept_concat]
    split
    · exact ih
    · rename_i hnew
      rw [List.map_append, List.nodup_append_comm]
      exact List.nodup_cons.mpr ⟨hnew, ih⟩

/-! ## The rows -/

theorem any_ofEntry {entries : List JournalEntry} {id : Uuid} :
    (entries.map JournalRow.ofEntry).any (·.id == id.text) = true ↔ id ∈ entries.map (·.id) := by
  simp [JournalRow.ofEntry, Uuid.text_inj]

theorem store_of_mem {entries : List JournalEntry} (h : e.id ∈ entries.map (·.id)) :
    (⟨entries.map JournalRow.ofEntry⟩ : JournalTable).store e =
      .error (.database "the identifier is taken") := by
  rw [store, add]
  exact if_pos (any_ofEntry.mpr h)

theorem store_of_notMem {entries : List JournalEntry} (h : e.id ∉ entries.map (·.id)) :
    (⟨entries.map JournalRow.ofEntry⟩ : JournalTable).store e =
      .ok ⟨(entries ++ [e]).map JournalRow.ofEntry⟩ := by
  rw [store, add, List.map_append]
  exact if_neg (mt any_ofEntry.mp h)

/-- The rows of the table are those of the entries that are kept. -/
theorem rows_ofCalls (calls : List JournalEntry) :
    ofCalls calls = ⟨(kept calls).map JournalRow.ofEntry⟩ := by
  induction calls using List.reverseRecOn with
  | nil => rfl
  | append_singleton calls e ih =>
    rw [ofCalls_concat, ih, kept_concat]
    split
    · rename_i hold
      rw [store_of_mem hold]
      rfl
    · rename_i hnew
      rw [store_of_notMem hnew]
      rfl

/-! ## What the journal tells -/

/-- Entries in the order of a listing: latest first, to the microsecond, and of one microsecond the
one that was stored later. -/
structure IsNewestFirst (entries sorted : List JournalEntry) : Prop where
  perm : sorted.Perm entries
  order : sorted.Pairwise fun a b => b.time.toMicros < a.time.toMicros ∨
    (b.time.toMicros = a.time.toMicros ∧ [b, a].Sublist entries)

/-- What a journal tells of the calls that were made. -/
structure Recounts (calls : List JournalEntry) (t : JournalTable) : Prop where
  /-- A call whose identifier is stored fails and changes nothing. -/
  refuses : ∀ e, e.id ∈ (kept calls).map (·.id) → (∃ fault, t.store e = .error fault) ∧
    kept (calls ++ [e]) = kept calls ∧ ofCalls (calls ++ [e]) = t
  /-- The entry of every other call is kept. -/
  keeps : ∀ e, e.id ∉ (kept calls).map (·.id) → t.store e = .ok (ofCalls (calls ++ [e])) ∧
    kept (calls ++ [e]) = kept calls ++ [e]
  /-- The first of the entries that are kept are listed, whole and with their times to the
  microsecond. -/
  recent : ∃ sorted, IsNewestFirst (kept calls) sorted ∧ ∀ limit,
    t.recent limit = .ok ((sorted.take limit).map JournalEntry.toMicros)

theorem isNewestFirst_latest :
    IsNewestFirst (kept calls) (latest (·.time.toMicros) (kept calls)) where
  perm := latest_perm
  order := pairwise_latest_stable (nodup_kept.of_map _)

theorem recent_ofCalls (h : ∀ e ∈ calls, e.Storable) (limit : Nat) :
    (ofCalls calls).recent limit =
      .ok (((latest (·.time.toMicros) (kept calls)).take limit).map JournalEntry.toMicros) := by
  have hkept : ∀ e ∈ kept calls, e.Storable := fun e he => h e (kept_subset he)
  rw [rows_ofCalls, recent, latestFirst_ofEntry fun e he => (hkept e he).time]
  exact mapM_take_latest (fun e he => JournalRow.read_ofEntry (hkept e he)) limit

/-- A call to store an entry fails and changes nothing if its identifier is taken, and is kept if
not. The entries that are kept are listed newest first, as they were stored. -/
theorem recounts_calls (h : ∀ e ∈ calls, e.Storable) : Recounts calls (ofCalls calls) where
  refuses e he := by
    have hkept : kept (calls ++ [e]) = kept calls := (kept_concat calls e).trans (if_pos he)
    refine ⟨⟨_, rows_ofCalls calls ▸ store_of_mem he⟩, hkept, ?_⟩
    rw [rows_ofCalls, rows_ofCalls, hkept]
  keeps e he := by
    have hkept : kept (calls ++ [e]) = kept calls ++ [e] := (kept_concat calls e).trans (if_neg he)
    refine ⟨?_, hkept⟩
    rw [rows_ofCalls, rows_ofCalls, hkept]
    exact store_of_notMem he
  recent := ⟨_, isNewestFirst_latest, recent_ofCalls h⟩

namespace Taken

/-- An entry with details. -/
def finished : JournalEntry where
  id := ⟨1⟩
  time := ⟨1714521600, 1999⟩
  worker := "resolution"
  level := .info
  message := "Tick finished"
  details := some (.obj [("resolved", .int 1), ("sites", .arr [.str "a\n\"é", .null])])
  error := none

/-- An entry of an earlier time. -/
def failed : JournalEntry where
  id := ⟨2⟩
  time := ⟨1714521540, 0⟩
  worker := "resolution"
  level := .error
  message := "Tick failed"
  details := some .null
  error := some "rpc down"

/-- An entry of the same microsecond as the first. -/
def started : JournalEntry where
  id := ⟨3⟩
  time := ⟨1714521600, 1000⟩
  worker := "lease"
  level := .info
  message := ""
  details := none
  error := none

/-- The identifier of the first entry is used a second time. -/
def history : List JournalEntry := [finished, failed, { failed with id := ⟨1⟩ }, started]

end Taken

open Taken in
/-- The entry whose identifier was taken is not listed. -/
theorem recounts_calls_taken :
    (∀ e ∈ history, e.Storable) ∧ Recounts history (ofCalls history) ∧
    (∃ fault, (ofCalls history).store { failed with id := ⟨1⟩ } = .error fault) ∧
    (ofCalls history).recent 2 = .ok [started.toMicros, finished.toMicros] := by
  have h : ∀ e ∈ history, e.Storable := by
    have hfinished : ∀ v ∈ finished.details, v.IsPlain Written.depthLimit := by
      rintro v ⟨⟩
      exact ⟨by decide, List.pairwise_pair.mpr (by decide), by simp [Json.IsPlain],
        ⟨by decide, trivial, trivial, trivial⟩, trivial⟩
    have hfailed : ∀ v ∈ failed.details, v.IsPlain Written.depthLimit := by
      rintro v ⟨⟩
      trivial
    have hstarted : ∀ v ∈ started.details, v.IsPlain Written.depthLimit := nofun
    simp only [history, List.forall_mem_cons]
    exact ⟨⟨by decide, hfinished⟩, ⟨by decide, hfailed⟩, ⟨by decide, hfailed⟩,
      ⟨by decide, hstarted⟩, nofun⟩
  have hrecounts := recounts_calls h
  refine ⟨h, hrecounts, (hrecounts.refuses _ (by decide)).1, ?_⟩
  have hkept : kept history = [finished, failed, started] := by rfl
  have horder : latest (·.time.toMicros) [finished, failed, started] =
      [started, finished, failed] := by
    simp +decide [latest, List.mergeSort, List.MergeSort.Internal.splitInTwo]
  rw [recent_ofCalls h, hkept, horder]
  rfl

end JournalTable

end Sheltering
