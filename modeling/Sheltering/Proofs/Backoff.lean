import Sheltering.Backoff
import Sheltering.Proofs.Instant.Bounds

/-!
# Open windows

A backoff memory drops closed windows when it likes. What can be seen of it is which windows are
open, now and later.

* `Backoff.Open`: the window of an id is open at an instant.
* `Backoff.lookup_eq`: a lookup tells whether the window is open.
* `Backoff.open_lookup`, `Backoff.open_sweep`: lookups and sweeps close no window and open none.
* `Backoff.open_remember`: a window that is opened takes the place of any other of its id.
* `Backoff.lt_expiry_iff`: a window ends after its length, or with the calendar.
-/

namespace Sheltering

namespace Instant

instance : Min Instant := minOfLe

variable {a b c : Instant}

theorem lt_of_le_of_lt (hab : a ≤ b) (hbc : b < c) : a < c := by
  rw [le_def] at hab
  rw [lt_def] at hbc ⊢
  omega

theorem lt_of_lt_of_le (hab : a < b) (hbc : b ≤ c) : a < c := by
  rw [lt_def] at hab ⊢
  rw [le_def] at hbc
  omega

theorem lt_trans (hab : a < b) (hbc : b < c) : a < c := by
  rw [lt_def] at hab hbc ⊢
  omega

theorem not_lt : ¬ a < b ↔ b ≤ a := by
  rw [lt_def, le_def]
  omega

theorem le_of_lt (h : a < b) : a ≤ b := by
  rw [lt_def] at h
  rw [le_def]
  omega

theorem lt_min_iff : a < min b c ↔ a < b ∧ a < c := by
  show a < (if b ≤ c then b else c) ↔ _
  split
  · rename_i h
    rw [le_def] at h
    simp only [lt_def]
    omega
  · rename_i h
    rw [le_def] at h
    simp only [lt_def]
    omega

/-- What a clock shows: no instant before the first or after the last. -/
def Readable (t : Instant) : Prop := first ≤ t ∧ t ≤ last

instance (t : Instant) : Decidable t.Readable := inferInstanceAs (Decidable (_ ∧ _))

/-- A span that is not negative does not lead to an earlier second. -/
theorem second_le_add (t : Instant) {d : Span} (hd : 0 ≤ d.nanos) : t.second ≤ (t.add d).second := by
  rcases add_cases t d with ⟨-, e⟩ | ⟨-, hskip, e⟩ | ⟨-, -, e⟩
  · simp [e]
  · simp only [e, ofNanos]
    omega
  · simp only [e, ofNanos]
    omega

/-- What stays within the calendar is not after its last instant. -/
theorem add_le_last {t : Instant} {d : Span} (ht : t ≤ last) (h : (t.add d).InCalendar) :
    t.add d ≤ last := by
  have hs := h.2
  rcases add_cases t d with ⟨⟨hleap, -⟩, e⟩ | ⟨-, -, e⟩ | ⟨-, -, e⟩ <;>
  · rw [e] at hs ⊢
    rw [le_def] at ht ⊢
    simp only [last, ofNanos] at ht hs ⊢
    omega

end Instant

namespace Backoff

variable {b : Backoff} {id id' : String} {ttl : Span} {now t : Instant}

/-! ## Entries -/

theorem lookup_cons {α : Type} (w : String × α) (ws : List (String × α)) (id : String) :
    (w :: ws).lookup id = if id = w.1 then some w.2 else ws.lookup id := by
  by_cases h : id = w.1
  · rw [List.lookup_cons, if_pos h, beq_iff_eq.mpr h]
  · rw [List.lookup_cons, if_neg h, beq_false_of_ne h]

/-- Where each key stands once, a filter keeps the value of a key or drops it. -/
theorem lookup_filter {α : Type} {ws : List (String × α)} (keep : String × α → Bool)
    (h : ws.Pairwise fun a b => a.1 ≠ b.1) (id : String) :
    (ws.filter keep).lookup id = (ws.lookup id).filter fun e => keep (id, e) := by
  induction ws with
  | nil => rfl
  | cons w ws ih =>
    obtain ⟨hw, hws⟩ := List.pairwise_cons.mp h
    rw [List.filter_cons, lookup_cons]
    by_cases hid : id = w.1
    · subst hid
      rw [if_pos rfl, Option.filter_some]
      split
      · rw [lookup_cons, if_pos rfl]
      · refine List.lookup_eq_none_iff.mpr fun w' h' => bne_iff_ne.mpr ?_
        exact hw w' (List.mem_filter.mp h').1
    · rw [if_neg hid, ← ih hws]
      split
      · rw [lookup_cons, if_neg hid]
      · rfl

theorem get?_filter (keep : String × Instant → Bool) :
    (b.filter keep).get? id = (b.get? id).filter fun e => keep (id, e) :=
  lookup_filter keep b.distinct id

theorem get?_erase : (b.erase id').get? id = if id = id' then none else b.get? id := by
  rw [erase, get?_filter]
  by_cases h : id = id'
  · simp [h]
  · cases b.get? id <;> simp [h]

theorem get?_insert {expiry : Instant} :
    (b.insert id' expiry).get? id = if id = id' then some expiry else b.get? id := by
  have h : (b.erase id').get? id = if id = id' then none else b.get? id := get?_erase
  rw [get?] at h
  rw [get?, insert, lookup_cons, h]
  split
  · rfl
  · rfl

/-- A lookup drops the window of its id if that is closed. -/
theorem get?_lookup : (b.lookup id' now).2.get? id =
    if id = id' then (b.get? id).filter (now < ·) else b.get? id := by
  rw [lookup]
  split
  · rename_i hnone
    split
    · rename_i hid
      rw [hid, hnone]
      rfl
    · rfl
  · rename_i e hsome
    by_cases hlt : now < e
    · rw [if_pos hlt]
      split
      · rename_i hid
        rw [hid, hsome, Option.filter_some, if_pos (decide_eq_true hlt)]
      · rfl
    · rw [if_neg hlt, get?_erase]
      split
      · rename_i hid
        rw [hid, hsome, Option.filter_some, if_neg (mt of_decide_eq_true hlt)]
      · rfl

/-- A sweep drops the windows that are closed. -/
theorem get?_sweep : (b.sweep now).2.get? id = (b.get? id).filter (now < ·) :=
  get?_filter _

/-! ## Windows -/

/-- The window of an id is open at an instant. -/
def Open (b : Backoff) (id : String) (t : Instant) : Prop := ∃ e, b.get? id = some e ∧ t < e

instance : Decidable (b.Open id t) :=
  match h : b.get? id with
  | none => .isFalse fun ⟨e, he, _⟩ => by simp [h] at he
  | some e =>
    decidable_of_iff (t < e) ⟨fun ht => ⟨e, h, ht⟩, fun ⟨e', he', ht⟩ => by
      rw [h] at he'
      cases he'
      exact ht⟩

theorem not_open_empty : ¬ empty.Open id t := by
  rintro ⟨e, he, -⟩
  cases he

/-- A lookup tells whether the window is open. -/
theorem lookup_eq : (b.lookup id now).1 = decide (b.Open id now) := by
  rw [lookup, Bool.eq_iff_iff, decide_eq_true_iff]
  cases h : b.get? id with
  | none => simp [Open, h]
  | some e =>
    by_cases hlt : now < e
    · simp [Open, h, hlt]
    · simp [Open, h, hlt]

/-- A window that was closed stays closed, kept or not. -/
theorem open_filter {keep : String × Instant → Bool} (h : ∀ e, now < e → keep (id, e) = true)
    (ht : now ≤ t) : (b.filter keep).Open id t ↔ b.Open id t := by
  refine exists_congr fun e => and_congr_left fun hte => ?_
  rw [get?_filter, Option.filter_eq_some_iff]
  exact and_iff_left (h e (Instant.lt_of_le_of_lt ht hte))

/-- A lookup closes no window and opens none. -/
theorem open_lookup (ht : now ≤ t) : (b.lookup id' now).2.Open id t ↔ b.Open id t := by
  rw [lookup]
  split
  · rfl
  · rename_i e he
    split
    · rfl
    · rename_i hlt
      -- The window that is dropped was closed.
      refine exists_congr fun e' => and_congr_left fun hte => ?_
      rw [get?_erase]
      split
      · rename_i hid
        subst hid
        rw [he]
        refine iff_of_false nofun fun h => hlt ?_
        cases h
        exact Instant.lt_of_le_of_lt ht hte
      · rfl

/-- A sweep closes no window and opens none. -/
theorem open_sweep (ht : now ≤ t) : (b.sweep now).2.Open id t ↔ b.Open id t :=
  open_filter (fun _ h => decide_eq_true h) ht

/-- A window that is opened takes the place of any other of its id. -/
theorem open_remember : (b.remember id' ttl now).Open id t ↔
    if id = id' then t < expiry now ttl else b.Open id t := by
  rw [remember, Open, get?_insert]
  split
  · exact ⟨fun ⟨e, he, ht⟩ => Option.some.inj he ▸ ht, fun ht => ⟨_, rfl, ht⟩⟩
  · rfl

/-! ## The end of a window -/

/-- A window that does not end before the calendar begins ends after its length, or with the calendar
if that comes first. -/
theorem lt_expiry_iff_of_first_le (hlast : now ≤ Instant.last) (h : Instant.first ≤ now.add ttl) :
    t < expiry now ttl ↔ t < min (now.add ttl) Instant.last := by
  rw [Instant.lt_min_iff, expiry, Instant.add?]
  split
  · rename_i hin
    have hcut := Instant.add_le_last hlast hin
    exact ⟨fun h => ⟨h, Instant.lt_of_lt_of_le h hcut⟩, And.left⟩
  · rename_i hout
    have hafter : Instant.last < now.add ttl := by
      rw [Instant.le_def] at h
      rw [Instant.InCalendar] at hout
      rw [Instant.lt_def]
      omega
    exact ⟨fun h => ⟨Instant.lt_trans h hafter, h⟩, And.right⟩

/-- A length that is not negative does not lead to before the calendar. -/
theorem lt_expiry_iff (hnow : now.Readable) (hd : 0 ≤ ttl.nanos) :
    t < expiry now ttl ↔ t < min (now.add ttl) Instant.last := by
  obtain ⟨hfirst, hlast⟩ := hnow
  have hle := Instant.second_le_add now hd
  refine lt_expiry_iff_of_first_le hlast ?_
  rw [Instant.le_def] at hfirst ⊢
  simp only [Instant.first] at hfirst ⊢
  omega

end Backoff

end Sheltering
