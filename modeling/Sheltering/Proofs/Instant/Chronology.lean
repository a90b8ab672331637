import Sheltering.Journal
import Sheltering.Shelter
import Sheltering.Proofs.Latest
import Sheltering.Proofs.Lease.Reading

/-!
# Comparing stored timestamps as text is chronological

The database compares stored timestamps byte by byte: to end the leases that have reached their
deadline, and to list the journal and the sheltered bundles latest first. Between the years 0 and
9999 each of these comparisons is one of instants cut to microseconds.

* `Instant.length_stored`: a stored timestamp is 27 bytes long.
* `Instant.compare_stored`: stored timestamps compare as the instants do.
* `LeaseTable.expire_ofLease`: which leases are ended.
* `JournalTable.latestFirst_ofEntry`, `ShelterTable.latestFirst_ofBundle`: how rows are listed.
* `stored_chronological`: all this, and that a stored timestamp is read back.
-/

namespace Sheltering

open Text

namespace Instant

variable {a b t : Instant}

/-! ## Timestamps -/

/-- A stored timestamp is 27 bytes long. -/
theorem length_stored (h : t.Storable) : (bytes t.stored).length = 27 := by
  obtain ⟨hmonth, hday, hhour, hminute, hsecond, hnano⟩ := civil_bounds t
  have hyear : t.civil.date.year.toNat < 10000 := by
    have := h.year
    omega
  have hascii : ∀ c ∈ t.storedChars, c.toNat < 128 := by
    intro c hc
    simp only [storedChars_eq h, List.mem_append, List.mem_cons, List.not_mem_nil, or_false] at hc
    -- Every character is a digit or one of the marks between the fields.
    rcases hc with hc | rfl | hc | rfl | hc | rfl | hc | rfl | hc | rfl | hc | rfl | hc | rfl
    all_goals first
      | exact toNat_lt_of_mem_padded hc
      | decide
  rw [stored, length_bytes_ofList hascii, storedChars_eq h]
  simp only [List.length_append, List.length_cons, List.length_nil,
    length_padded (by decide : 0 < 4) (show t.civil.date.year.toNat < Nat.pow 10 4 from hyear),
    length_padded (by decide : 0 < 2) hmonth, length_padded (by decide : 0 < 2) hday,
    length_padded (by decide : 0 < 2) hhour, length_padded (by decide : 0 < 2) hminute,
    length_padded (by decide : 0 < 2) hsecond, length_padded (by decide : 0 < 6) hnano]

theorem stored_lt_iff (ha : a.Storable) (hb : b.Storable) :
    a.stored < b.stored ↔ a.toMicros < b.toMicros := by
  rw [← String.not_le, stored_le_stored hb ha, lt_def, le_def]
  omega

theorem stored_inj (ha : a.Storable) (hb : b.Storable) :
    a.stored = b.stored ↔ a.toMicros = b.toMicros := by
  refine ⟨fun h => ?_, stored_eq_stored⟩
  rcases toMicros_trichotomy a b with hlt | heq | hlt
  · have hstored := stored_lt_stored ha hb hlt
    rw [h] at hstored
    exact absurd hstored (String.lt_irrefl _)
  · exact heq
  · have hstored := stored_lt_stored hb ha hlt
    rw [h] at hstored
    exact absurd hstored (String.lt_irrefl _)

/-- The bytes of stored timestamps compare as the instants do, cut to microseconds. -/
theorem compare_stored (ha : a.Storable) (hb : b.Storable) :
    compareOfLessAndEq (bytes a.stored) (bytes b.stored) =
      compareOfLessAndEq a.toMicros b.toMicros := by
  have hsame : bytes a.stored = bytes b.stored ↔ a.toMicros = b.toMicros :=
    bytes_inj.trans (stored_inj ha hb)
  simp only [compareOfLessAndEq, bytes_lt_iff, stored_lt_iff ha hb, hsame]

theorem read_stored (h : t.Storable) : Column.instant t.stored = .ok t.toMicros := by
  rw [Column.instant, ofStored?_stored h]

end Instant

/-! ## Leases that have reached their deadline -/

namespace Lease

/-- The lease of a work type runs although its deadline is reached, to the microsecond. -/
def isDue (l : Lease) (workType : String) (now : Instant) : Bool :=
  l.workType == workType && l.status == .running && decide (now.Reaches l.deadline)

/-- The lease ends because its deadline is reached. -/
def lapse (l : Lease) (now : Instant) : Lease := { l with status := .timedOut, finish := some now }

end Lease

/-- The leases that are ended are those whose deadline is reached, and no other row changes. -/
theorem LeaseTable.expire_ofLease {leases : List Lease} {now : Instant}
    (hleases : ∀ l ∈ leases, l.deadline.Storable) (hnow : now.Storable) (workType : String) :
    (⟨leases.map LeaseRow.ofLease⟩ : LeaseTable).expire workType now =
      (leases.countP (·.isDue workType now),
        ⟨leases.map fun l => .ofLease (if l.isDue workType now then l.lapse now else l)⟩) := by
  have htest : ∀ l ∈ leases, ((LeaseRow.ofLease l).workType == workType &&
      (LeaseRow.ofLease l).isRunning && decide ((LeaseRow.ofLease l).deadline ≤ now.stored)) =
        l.isDue workType now := by
    intro l hl
    have hrunning : (LeaseRow.ofLease l).isRunning = (l.status == .running) := by
      rw [Bool.eq_iff_iff, LeaseRow.isRunning_ofLease, beq_iff_eq]
    have hdeadline := Instant.stored_le_iff_reaches (hleases l hl) hnow
    rw [hrunning, Lease.isDue, ← decide_eq_decide.mpr hdeadline]
    rfl
  rw [expire, update, List.countP_map, List.map_map]
  refine Prod.ext (List.countP_congr fun l hl => ?_) (congrArg LeaseTable.mk ?_)
  · rw [Function.comp, htest l hl]
  · refine List.map_congr_left fun l hl => ?_
    rw [Function.comp, htest l hl]
    split <;> rfl

/-! ## Listings -/

theorem JournalTable.latestFirst_ofEntry {entries : List JournalEntry}
    (h : ∀ e ∈ entries, e.time.Storable) :
    (⟨entries.map JournalRow.ofEntry⟩ : JournalTable).latestFirst =
      (latest (·.time.toMicros) entries).map JournalRow.ofEntry := by
  rw [latestFirst, latest, ← List.map_reverse, List.map_mergeSort]
  intro e he f hf
  exact decide_eq_decide.mpr (Instant.stored_le_stored (h f (List.mem_reverse.mp hf))
    (h e (List.mem_reverse.mp he))).symm

/-- The row of a bundle. -/
def ShelterRow.ofBundle (b : ShelteredBundle) : ShelterRow := ⟨b.bundle, b.since.stored⟩

theorem ShelterTable.latestFirst_ofBundle {bundles : List ShelteredBundle}
    (h : ∀ b ∈ bundles, b.since.Storable) :
    (⟨bundles.map ShelterRow.ofBundle⟩ : ShelterTable).latestFirst =
      (latest (·.since.toMicros) bundles).map ShelterRow.ofBundle := by
  rw [latestFirst, latest, ← List.map_reverse, List.map_mergeSort]
  intro b hb c hc
  exact decide_eq_decide.mpr (Instant.stored_le_stored (h c (List.mem_reverse.mp hc))
    (h b (List.mem_reverse.mp hb))).symm

/-! ## Every comparison -/

/-- Stored timestamps of 27 bytes are read back to the microsecond, and compare as the instants do.
So a lease is ended when its deadline is reached and not before, and listings begin with the latest
instant, of one microsecond with the row put in last. -/
theorem stored_chronological {a b now : Instant} (ha : a.Storable) (hb : b.Storable)
    (hnow : now.Storable) {leases : List Lease} (hleases : ∀ l ∈ leases, l.deadline.Storable)
    {entries : List JournalEntry} (hentries : ∀ e ∈ entries, e.time.Storable)
    {bundles : List ShelteredBundle} (hbundles : ∀ b ∈ bundles, b.since.Storable)
    (workType : String) :
    ((bytes a.stored).length = 27 ∧ Column.instant a.stored = .ok a.toMicros ∧
      compareOfLessAndEq (bytes a.stored) (bytes b.stored) =
        compareOfLessAndEq a.toMicros b.toMicros) ∧
    (⟨leases.map LeaseRow.ofLease⟩ : LeaseTable).expire workType now =
      (leases.countP (·.isDue workType now),
        ⟨leases.map fun l => .ofLease (if l.isDue workType now then l.lapse now else l)⟩) ∧
    (⟨entries.map JournalRow.ofEntry⟩ : JournalTable).latestFirst =
      (latest (·.time.toMicros) entries).map JournalRow.ofEntry ∧
    (⟨bundles.map ShelterRow.ofBundle⟩ : ShelterTable).latestFirst =
      (latest (·.since.toMicros) bundles).map ShelterRow.ofBundle :=
  ⟨⟨Instant.length_stored ha, Instant.read_stored ha, Instant.compare_stored ha hb⟩,
    LeaseTable.expire_ofLease hleases hnow workType, JournalTable.latestFirst_ofEntry hentries,
    ShelterTable.latestFirst_ofBundle hbundles⟩

namespace NewYear

/-- Half of the leap second that ended the year 2016 has passed. -/
def leapSecond : Instant := ⟨1483228799, 1500000999⟩

def midnight : Instant := ⟨1483228800, 0⟩

/-- A lease that ran until the leap second, and one that runs a second longer. -/
def leases : List Lease :=
  [⟨⟨1⟩, "sweep", .running, ⟨1483228700, 0⟩, none, leapSecond⟩,
    ⟨⟨2⟩, "sweep", .running, ⟨1483228700, 0⟩, none, ⟨1483228801, 0⟩⟩]

def entry (message : String) (time : Instant) : JournalEntry :=
  { JournalNote.info "sweep" message none with id := ⟨0⟩, time }

def during : JournalEntry := entry "during" leapSecond

/-- An entry of the second before. -/
def before : JournalEntry := entry "before" ⟨1483228799, 999999999⟩

def after : JournalEntry := entry "after" midnight

/-- An entry of the same microsecond. -/
def last : JournalEntry := entry "last" ⟨1483228800, 999⟩

def entries : List JournalEntry := [during, before, after, last]

def bundles : List ShelteredBundle := [⟨"x", leapSecond⟩, ⟨"y", midnight⟩]

end NewYear

open NewYear in
/-- The leap second has the second 60, and stands between the seconds around it. -/
theorem stored_chronological_leap :
    leapSecond.Storable ∧ midnight.Storable ∧ (∀ l ∈ leases, l.deadline.Storable) ∧
    (∀ e ∈ entries, e.time.Storable) ∧ (∀ b ∈ bundles, b.since.Storable) ∧
    leapSecond.stored = "2016-12-31T23:59:60.500000Z" ∧
    Column.instant leapSecond.stored = .ok ⟨1483228799, 1500000000⟩ ∧
    compareOfLessAndEq (bytes leapSecond.stored) (bytes midnight.stored) = .lt ∧
    ((⟨leases.map LeaseRow.ofLease⟩ : LeaseTable).expire "sweep" midnight).1 = 1 ∧
    (⟨entries.map JournalRow.ofEntry⟩ : JournalTable).latestFirst =
      [last, after, during, before].map JournalRow.ofEntry ∧
    (⟨bundles.map ShelterRow.ofBundle⟩ : ShelterTable).latestFirst =
      [⟨"y", midnight⟩, ⟨"x", leapSecond⟩].map ShelterRow.ofBundle := by
  have ha : leapSecond.Storable := by decide
  have hb : midnight.Storable := by decide
  have hleases : ∀ l ∈ leases, l.deadline.Storable := by decide
  have hentries : ∀ e ∈ entries, e.time.Storable := by decide
  have hbundles : ∀ b ∈ bundles, b.since.Storable := by decide
  obtain ⟨⟨-, hread, hcompare⟩, hexpire, hjournal, hshelter⟩ :=
    stored_chronological ha hb hb hleases hentries hbundles "sweep"
  refine ⟨ha, hb, hleases, hentries, hbundles, by decide, hread, hcompare.trans (by decide), ?_⟩
  rw [hexpire, hjournal, hshelter]
  refine ⟨by decide, congrArg (List.map _) ?_, congrArg (List.map _) ?_⟩
  · simp +decide [latest, entries, List.mergeSort, List.MergeSort.Internal.splitInTwo]
  · simp +decide [latest, bundles, List.mergeSort, List.MergeSort.Internal.splitInTwo]

end Sheltering
