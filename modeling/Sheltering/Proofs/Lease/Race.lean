import Sheltering.Proofs.Lease.Exclusion

/-!
# Races for a lease

* `LeaseCall.Identifiers`: no two identifiers that are drawn are one, and none is one of the table.
* `LeaseCall.Race`: callers compete for a work type that has no running lease, or one whose deadline
  they all have reached.
* `lease_excludes`: a lease stands until it is ended, meanwhile every other caller is turned away,
  and in a race exactly one caller obtains the lease.
-/

namespace Sheltering

open Dialogue (Exchange ask unsettle)

namespace LeaseCall

variable {calls : List LeaseCall} {ms : List (Moment LeaseStep Office (Except Fault Uuid))}
  {m : Moment LeaseStep Office (Except Fault Uuid)} {c : LeaseCall} {x x' : Standing}
  {o₀ o o' : Office} {e : Exchange LeaseStep} {f : Nat → Standing} {k : Nat} {w : String}

/-! ## Identifiers -/

/-- The identifier that a call is about to take a lease with. -/
def Standing.id? : Standing → Option Uuid
  | opening (.taking id _ _) => some id
  | _ => none

/-- The rows have identifiers that were drawn, and a call that is about to take a lease has a new
one of its own. -/
structure Identifiers (o₀ o : Office) (f : Nat → Standing) : Prop where
  rows : ∀ r ∈ o.table.rows, ∃ id ∈ o.drawn, r.id = id.text
  grown : ∀ id ∈ o₀.drawn, id ∈ o.drawn
  drawn : ∀ k id, (f k).id? = some id → id ∈ o.drawn ∧ id ∉ o₀.drawn
  new : ∀ k id, (f k).id? = some id → ∀ r ∈ o.table.rows, r.id ≠ id.text
  own : ∀ j k id, (f j).id? = some id → (f k).id? = some id → j = k

/-- A step that draws no identifier and puts in no row. -/
theorem Identifiers.quiet (h : Identifiers o₀ o f) (hx : x'.id? = none)
    (hdrawn : o'.drawn = o.drawn)
    (hrows : ∀ r ∈ o'.table.rows, ∃ r₀ ∈ o.table.rows, r.id = r₀.id) :
    Identifiers o₀ o' (moved f k x') := by
  have hf : ∀ j id, (moved f k x' j).id? = some id → (f j).id? = some id := by
    intro j id hj
    by_cases hjk : j = k
    · rw [hjk, moved_self, hx] at hj
      cases hj
    · rwa [moved_ne f x' hjk] at hj
  refine ⟨fun r hr => ?_, ?_, ?_, fun j id hj r hr => ?_, ?_⟩
  · obtain ⟨r₀, hr₀, hid⟩ := hrows r hr
    rw [hid, hdrawn]
    exact h.rows r₀ hr₀
  · rw [hdrawn]
    exact h.grown
  · intro j id hj
    rw [hdrawn]
    exact h.drawn j id (hf j id hj)
  · obtain ⟨r₀, hr₀, hid⟩ := hrows r hr
    rw [hid]
    exact h.new j id (hf j id hj) r₀ hr₀
  · intro i j id hi hj
    exact h.own i j id (hf i id hi) (hf j id hj)

theorem exists_id_of_mem_update {t : LeaseTable} {test : LeaseRow → Bool}
    {change : LeaseRow → LeaseRow} (hc : ∀ r, (change r).id = r.id) {r : LeaseRow}
    (hr : r ∈ (t.update test change).2.rows) : ∃ r₀ ∈ t.rows, r.id = r₀.id := by
  obtain ⟨r₀, hr₀, rfl⟩ := LeaseTable.mem_update.mp hr
  refine ⟨r₀, hr₀, ?_⟩
  split
  · exact hc r₀
  · rfl

theorem Identifiers.draw {id : Uuid} {t d : Instant} (h : Identifiers o₀ o f) (hid : id ∉ o.drawn) :
    Identifiers o₀ { o with drawn := id :: o.drawn } (moved f k (.opening (.taking id t d))) := by
  have hf : ∀ j i, (moved f k (.opening (.taking id t d)) j).id? = some i →
      (j = k ∧ i = id) ∨ (j ≠ k ∧ (f j).id? = some i) := by
    intro j i hj
    by_cases hjk : j = k
    · rw [hjk, moved_self] at hj
      exact .inl ⟨hjk, (Option.some.inj hj).symm⟩
    · rw [moved_ne f _ hjk] at hj
      exact .inr ⟨hjk, hj⟩
  refine ⟨fun r hr => ?_, fun i hi => List.mem_cons_of_mem _ (h.grown i hi), ?_, ?_, ?_⟩
  · obtain ⟨i, hi, hr⟩ := h.rows r hr
    exact ⟨i, List.mem_cons_of_mem _ hi, hr⟩
  · intro j i hj
    obtain ⟨-, rfl⟩ | ⟨-, hj⟩ := hf j i hj
    · exact ⟨List.mem_cons_self, fun hi => hid (h.grown i hi)⟩
    · obtain ⟨hi, hi₀⟩ := h.drawn j i hj
      exact ⟨List.mem_cons_of_mem _ hi, hi₀⟩
  · intro j i hj r hr hri
    obtain ⟨-, rfl⟩ | ⟨-, hj⟩ := hf j i hj
    · obtain ⟨i', hi', hr'⟩ := h.rows r hr
      rw [Uuid.text_inj.mp (hri.symm.trans hr')] at hid
      exact hid hi'
    · exact h.new j i hj r hr hri
  · intro j j' i hj hj'
    obtain ⟨hk, hi⟩ | ⟨-, hj⟩ := hf j i hj
    · obtain ⟨hk', -⟩ | ⟨-, hj'⟩ := hf j' i hj'
      · rw [hk, hk']
      · exact absurd (hi ▸ (h.drawn j' i hj').1) hid
    · obtain ⟨-, hi⟩ | ⟨-, hj'⟩ := hf j' i hj'
      · exact absurd (hi ▸ (h.drawn j i hj).1) hid
      · exact h.own j j' i hj hj'

theorem Identifiers.take {id : Uuid} {row : LeaseRow} {table : LeaseTable}
    (h : Identifiers o₀ o f) (hk : (f k).id? = some id) (hrow : row.id = id.text)
    (ha : LeaseTable.Acquired o.table row table) (hx : x'.id? = none) :
    Identifiers o₀ { o with table } (moved f k x') := by
  have hf : ∀ j i, (moved f k x' j).id? = some i → j ≠ k ∧ (f j).id? = some i := by
    intro j i hj
    by_cases hjk : j = k
    · rw [hjk, moved_self, hx] at hj
      cases hj
    · rw [moved_ne f x' hjk] at hj
      exact ⟨hjk, hj⟩
  refine ⟨fun r hr => ?_, h.grown, fun j i hj => h.drawn j i (hf j i hj).2, ?_, ?_⟩
  · obtain rfl | hr := ha.rows r hr
    · exact ⟨id, (h.drawn k id hk).1, hrow⟩
    · exact h.rows r hr
  · intro j i hj r hr hri
    obtain ⟨hjk, hj⟩ := hf j i hj
    obtain rfl | hr := ha.rows r hr
    · rw [hrow] at hri
      obtain rfl := Uuid.text_inj.mp hri
      exact hjk (h.own j k id hj hk)
    · exact h.new j i hj r hr hri
  · intro j j' i hj hj'
    exact h.own j j' i (hf j i hj).2 (hf j' i hj').2

theorem Identifiers.step (h : Identifiers o₀ o f) (hs : Step c (f k) o e x' o') :
    Identifiers o₀ o' (moved f k x') := by
  generalize hx : f k = x at hs
  cases hs with
  | draw hid => exact h.draw hid
  | take ha =>
    obtain ⟨hf, -⟩ | ⟨-, ha⟩ := LeaseTable.acquire_cases ha
    · cases hf
    · exact h.take (by rw [hx]; rfl) rfl ha rfl
  | miss ha =>
    obtain ⟨-, rfl⟩ | ⟨hf, -⟩ := LeaseTable.acquire_cases ha
    · exact h.quiet rfl rfl fun r hr => ⟨r, hr, rfl⟩
    · cases hf
  | clear => exact h.quiet rfl rfl fun r hr => exists_id_of_mem_update (by intro r; rfl) hr
  | close => exact h.quiet rfl rfl fun r hr => exists_id_of_mem_update (by intro r; rfl) hr
  | _ => exact h.quiet rfl rfl fun r hr => ⟨r, hr, rfl⟩

/-! ## The race -/

/-- The call `k` read the clock. -/
def Reads (ms : List (Moment LeaseStep Office (Except Fault Uuid))) (k : Nat) (t : Instant) :
    Prop :=
  ∃ m ∈ ms, m.who = k ∧ m.exchange = ⟨.now, .answer t⟩

/-- The call `k` put in a lease. -/
def Takes (ms : List (Moment LeaseStep Office (Except Fault Uuid))) (k : Nat) : Prop :=
  ∃ m ∈ ms, m.who = k ∧ ∃ row, m.exchange = ⟨.acquire row, .answer (.ok true)⟩

/-- The call `k` competes for a work type. -/
def Enters (calls : List LeaseCall) (w : String) (k : Nat) (timeout : Span) : Prop :=
  calls[k]? = some (begin w timeout)

/-- A row has a deadline that every caller has reached. -/
def Overdue (calls : List LeaseCall) (w : String)
    (ms : List (Moment LeaseStep Office (Except Fault Uuid))) (r : LeaseRow) : Prop :=
  ∃ deadline, deadline.Storable ∧ r.deadline = deadline.stored ∧
    ∀ k timeout t, Enters calls w k timeout → Reads ms k t → t.Reaches deadline

/-- Callers compete for a work type, and all of them are through. -/
structure Race (calls : List LeaseCall) (o : Office) (w : String)
    (ms : List (Moment LeaseStep Office (Except Fault Uuid))) : Prop where
  run : IsRun Office.answers (assemble calls o) ms
  entered : ∃ k timeout, Enters calls w k timeout
  ended : ∀ k timeout, Enters calls w k timeout →
    ∃ r, ((assemble calls o).last ms).speakers[k]? = some (unsettle r)
  /-- The identifiers of the table are known, so they will not be drawn. -/
  known : ∀ r ∈ o.table.rows, ∃ id ∈ o.drawn, r.id = id.text
  /-- Nobody gives back a lease of the race before the race is over. -/
  returned : ∀ id success, finish id success ∈ calls → id ∈ o.drawn
  /-- A lease that is running at the start is overdue. -/
  vacant : ∀ r ∈ o.table.rows, r.workType = w → r.isRunning = true → Overdue calls w ms r
  /-- The deadlines of the callers can be stored. -/
  deadlines : ∀ k timeout t, Enters calls w k timeout → Reads ms k t →
    ∃ deadline, t.add? timeout = some deadline ∧ deadline.Storable
  /-- No caller reads an instant that has reached the deadline of the lease that is taken. -/
  held : ∀ j k s s' t t' deadline, Enters calls w j s → Enters calls w k s' → Reads ms j t →
    Takes ms k → Reads ms k t' → t'.add? s' = some deadline → ¬ t.Reaches deadline

/-! ## What every step of a race keeps -/

/-- The reading and the deadline of a call that has read the clock. -/
def Standing.times? : Standing → Option (Instant × Instant)
  | opening (.clearing t d) => some (t, d)
  | opening (.drawing t d) => some (t, d)
  | opening (.taking _ t d) => some (t, d)
  | _ => none

/-- A caller has not yet got past the statement that ends an old lease. -/
def Standing.IsEarly (x : Standing) : Prop :=
  x = .opening .reading ∨ ∃ t d, x = .opening (.clearing t d)

/-- Nobody has obtained the lease yet. -/
structure Open (calls : List LeaseCall) (w : String)
    (ms : List (Moment LeaseStep Office (Except Fault Uuid))) (o : Office) (f : Nat → Standing) :
    Prop where
  pending : ∀ k timeout, Enters calls w k timeout → ∀ r, f k ≠ .ended r
  vacant : o.table.Free w ∨
    ((∀ r ∈ o.table.rows, r.workType = w → r.isRunning = true → Overdue calls w ms r) ∧
      ∀ k timeout, Enters calls w k timeout → (f k).IsEarly)

/-- The caller `k` has obtained the lease `l`. -/
structure Won (calls : List LeaseCall) (w : String)
    (ms : List (Moment LeaseStep Office (Except Fault Uuid))) (o₀ o : Office) (f : Nat → Standing)
    (k : Nat) (l : Lease) : Prop where
  entered : ∃ timeout t, Enters calls w k timeout ∧ Reads ms k t ∧ t.add? timeout = some l.deadline
  takes : Takes ms k
  storable : l.deadline.Storable
  new : l.id ∉ o₀.drawn
  workType : l.workType = w
  running : (LeaseRow.ofLease l).isRunning = true
  row : o.table.row? l.workType = some (.ofLease l)
  ended : f k = .ended (.answer (.ok l.id))
  others : ∀ j timeout, Enters calls w j timeout → j ≠ k → ∀ r, f j = .ended r →
    r = .answer (.error (.workInProgress w))

/-- What holds throughout a race. -/
structure Race.Inv (calls : List LeaseCall) (w : String)
    (ms : List (Moment LeaseStep Office (Except Fault Uuid))) (o₀ o : Office) (f : Nat → Standing) :
    Prop where
  ids : Identifiers o₀ o f
  timed : ∀ k, (f k).Timed
  informed : ∀ k timeout t d, Enters calls w k timeout → (f k).times? = some (t, d) →
    Reads ms k t ∧ t.add? timeout = some d
  phase : Open calls w ms o f ∨ ∃ k l, Won calls w ms o₀ o f k l

/-- A row of a work type that is running after a step was there before, unless the step put it
in. -/
theorem Step.calm (h : Step c x o e x' o') (he : ∀ row, taken? e = some row → row.workType ≠ w)
    {r : LeaseRow} (hr : r ∈ o'.table.rows) (hw : r.workType = w) (hrun : r.isRunning = true) :
    r ∈ o.table.rows := by
  cases h with
  | clear =>
    obtain ⟨r₀, hr₀, rfl⟩ := LeaseTable.mem_update.mp hr
    split at hrun
    · cases hrun
    · rename_i hn
      rwa [if_neg hn]
  | close =>
    obtain ⟨r₀, hr₀, rfl⟩ := LeaseTable.mem_update.mp hr
    split at hrun
    · rw [LeaseTable.isRunning_finished] at hrun
      cases hrun
    · rename_i hn
      rwa [if_neg hn]
  | take ha =>
    obtain ⟨hf, -⟩ | ⟨-, ha⟩ := LeaseTable.acquire_cases ha
    · cases hf
    · obtain rfl | hr := ha.rows r hr
      · exact absurd hw (he _ rfl)
      · exact hr
  | miss ha =>
    obtain ⟨-, rfl⟩ | ⟨hf, -⟩ := LeaseTable.acquire_cases ha
    · exact hr
    · cases hf
  | _ => exact hr

theorem Step.free (h : Step c x o e x' o') (he : ∀ row, taken? e = some row → row.workType ≠ w)
    (hfree : o.table.Free w) : o'.table.Free w := by
  intro r hr hw
  cases hrun : r.isRunning
  · rfl
  · rw [← hrun]
    exact hfree r (h.calm he hr hw hrun) hw

/-- A call that does not compete puts in no row of the work type. -/
theorem Step.workType_ne (h : Step c x o e x' o') (hc : ∀ timeout, c ≠ begin w timeout) :
    ∀ row, taken? e = some row → row.workType ≠ w := by
  rintro row he rfl
  cases h with
  | take ha =>
    cases he
    exact hc _ rfl
  | _ => cases he

theorem Step.not_ended {r : Reply (Except Fault Uuid)} (h : Step c x o e x' o') : x ≠ .ended r := by
  cases h <;> exact Standing.noConfusion

variable {timeout : Span}

theorem ne_of_enters {j : Nat} (hk : calls[k]? = some c) (hc : ∀ timeout, c ≠ begin w timeout)
    (hj : Enters calls w j timeout) : j ≠ k := by
  rintro rfl
  exact hc timeout (Option.some.inj (hk.symm.trans hj))

theorem Open.free (h : Open calls w ms o f) (hk : Enters calls w k timeout)
    (hearly : ¬ (f k).IsEarly) : o.table.Free w := by
  obtain hfree | ⟨-, hall⟩ := h.vacant
  · exact hfree
  · exact absurd (hall k timeout hk) hearly

/-- A call that does not compete leaves a race open. -/
theorem Open.other (h : Open calls w ms o f) (hk : calls[k]? = some c)
    (hc : ∀ timeout, c ≠ begin w timeout) (hs : Step c (f k) o e x' o') :
    Open calls w ms o' (moved f k x') := by
  have he := hs.workType_ne hc
  refine ⟨fun j timeout hj r => ?_, ?_⟩
  · rw [moved_ne f x' (ne_of_enters hk hc hj)]
    exact h.pending j timeout hj r
  · obtain hfree | ⟨hrows, hall⟩ := h.vacant
    · exact .inl (hs.free he hfree)
    · refine .inr ⟨fun r hr hw hrun => hrows r (hs.calm he hr hw hrun) hw hrun, ?_⟩
      intro j timeout hj
      rw [moved_ne f x' (ne_of_enters hk hc hj)]
      exact hall j timeout hj

/-- A caller that moves on without an end leaves a race open. -/
theorem Open.caller {s : Lease.Stage} (h : Open calls w ms o f) (hx : x' = .opening s)
    (hvacant : o'.table.Free w ∨
      ((∀ r ∈ o'.table.rows, r.workType = w → r.isRunning = true → Overdue calls w ms r) ∧
        ∀ k' timeout, Enters calls w k' timeout → (moved f k x' k').IsEarly)) :
    Open calls w ms o' (moved f k x') := by
  refine ⟨fun j timeout hj r => ?_, hvacant⟩
  by_cases hjk : j = k
  · rw [hjk, moved_self, hx]
    exact Standing.noConfusion
  · rw [moved_ne f x' hjk]
    exact h.pending j timeout hj r

/-- A free work type is taken by a caller with an identifier of its own. -/
theorem Identifiers.acquire {id : Uuid} {t d : Instant} (h : Identifiers o₀ o f)
    (hk : (f k).id? = some id) (hfree : o.table.Free w) :
    ∃ table, o.table.acquire (.ofLease (Lease.Stage.lease w id t d)) = .ok (true, table) :=
  LeaseTable.acquire_of_free hfree fun r hr hid => absurd hid (h.new k id hk r hr)

/-- A step of a caller leaves a race open, or it decides it. -/
theorem Race.Inv.caller (race : Race calls o₀ w ms) (h : Race.Inv calls w ms o₀ o f)
    (ho : Open calls w ms o f) (hk : Enters calls w k timeout)
    (hs : Step (begin w timeout) (f k) o e x' o')
    (hread : ∀ t, e = ⟨.now, .answer t⟩ → Reads ms k t)
    (htake : ∀ row, e = ⟨.acquire row, .answer (.ok true)⟩ → Takes ms k) :
    Open calls w ms o' (moved f k x') ∨ ∃ k' l, Won calls w ms o₀ o' (moved f k x') k' l := by
  have htimed := h.timed k
  have hinf := h.informed k timeout
  have hfree := ho.free hk
  have hnew : ∀ id, (f k).id? = some id → id ∉ o₀.drawn := fun id hid => (h.ids.drawn k id hid).2
  have hacq : ∀ id t d, (f k).id? = some id → o.table.Free w →
      ∃ table, o.table.acquire (.ofLease (Lease.Stage.lease w id t d)) = .ok (true, table) :=
    fun id t d hid => h.ids.acquire hid
  generalize hx : f k = x at hs htimed hinf hfree hnew hacq
  cases hs with
  | read hnow ht hd =>
    refine .inl (ho.caller rfl (ho.vacant.imp_right fun ⟨hrows, hall⟩ => ⟨hrows, ?_⟩))
    intro j timeout hj
    by_cases hjk : j = k
    · rw [hjk, moved_self]
      exact .inr ⟨_, _, rfl⟩
    · rw [moved_ne f _ hjk]
      exact hall j timeout hj
  | readTooLong hnow ht hd =>
    obtain ⟨deadline, hsome, -⟩ := race.deadlines k timeout _ hk (hread _ rfl)
    rw [hd] at hsome
    cases hsome
  | clear =>
    refine .inl (ho.caller rfl (.inl ?_))
    obtain hf | ⟨hrows, -⟩ := ho.vacant
    · exact hf.expire
    · refine LeaseTable.free_expire fun r hr hw hrun => ?_
      obtain ⟨deadline, hst, hrd, hreach⟩ := hrows r hr hw hrun
      rw [hrd, Instant.stored_le_iff_reaches hst htimed]
      exact hreach k timeout _ hk (hinf _ _ hk rfl).1
  | draw hid =>
    refine .inl (ho.caller rfl (.inl (hfree ?_)))
    rintro (hx | ⟨_, _, hx⟩) <;> cases hx
  | @take _ _ _ t d id table ha =>
    obtain ⟨hreads, hadd⟩ := hinf _ _ hk rfl
    obtain ⟨deadline, hd, hst⟩ := race.deadlines k timeout _ hk hreads
    rw [hadd] at hd
    obtain rfl := Option.some.inj hd
    obtain ⟨hf, -⟩ | ⟨-, ha⟩ := LeaseTable.acquire_cases ha
    · cases hf
    refine .inr ⟨k, Lease.Stage.lease w id t d, ?_⟩
    refine ⟨⟨timeout, t, hk, hreads, hadd⟩, htake _ rfl, hst, hnew id rfl, rfl, rfl, ha.self,
      moved_self .., fun j timeout hj hjk r hr => ?_⟩
    rw [moved_ne f _ hjk] at hr
    exact absurd hr (ho.pending j timeout hj r)
  | miss ha =>
    obtain ⟨table, ha'⟩ := hacq _ _ _ rfl (hfree (by rintro (hx | ⟨_, _, hx⟩) <;> cases hx))
    rw [ha] at ha'
    cases ha'
  | clash ha =>
    obtain ⟨table, ha'⟩ := hacq _ _ _ rfl (hfree (by rintro (hx | ⟨_, _, hx⟩) <;> cases hx))
    rw [ha] at ha'
    cases ha'

/-- No step of a race ends the lease that was taken in it. -/
theorem Won.not_ends {i : Nat} {l : Lease} (race : Race calls o₀ w ms)
    (h : Race.Inv calls w ms o₀ o f) (hw : Won calls w ms o₀ o f k l) (hi : calls[i]? = some c)
    (hs : Step c (f i) o e x' o') : ¬ e.question.Ends l := by
  have hinf := h.informed i
  generalize f i = x at hs hinf
  cases hs with
  | clear =>
    rintro ⟨rfl, hreach⟩
    rw [hw.workType] at hi
    obtain ⟨timeout', t', hk, hreads', hadd⟩ := hw.entered
    have hreads := (hinf _ _ _ hi rfl).1
    exact race.held i k _ _ _ _ _ hi hk hreads hw.takes hreads' hadd hreach
  | close =>
    rintro rfl
    exact hw.new (race.returned _ _ (List.mem_of_getElem? hi))
  | _ => exact id

/-- While a lease is running, a caller ends with the fault that work is in progress. -/
theorem Won.turned_away {l : Lease} (hw : Won calls w ms o₀ o f k l)
    (race : Race calls o₀ w ms) {j : Nat} (hj : Enters calls w j timeout)
    (hs : Step (begin w timeout) (f j) o e x' o')
    (hread : ∀ t, e = ⟨.now, .answer t⟩ → Reads ms j t) {r : Reply (Except Fault Uuid)}
    (hx' : x' = .ended r) : r = .answer (.error (.workInProgress w)) := by
  have hrow : o.table.row? w = some (.ofLease l) := hw.workType ▸ hw.row
  generalize f j = x at hs
  cases hs with
  | readTooLong hnow ht hd =>
    obtain ⟨deadline, hsome, -⟩ := race.deadlines j timeout _ hj (hread _ rfl)
    rw [hd] at hsome
    cases hsome
  | take ha =>
    rw [LeaseTable.acquire_of_running hrow hw.running] at ha
    cases ha
  | miss ha =>
    cases hx'
    rfl
  | clash ha =>
    rw [LeaseTable.acquire_of_running hrow hw.running] at ha
    cases ha
  | _ => cases hx'

/-- A step leaves a race decided. -/
theorem Won.step {i : Nat} {l : Lease} (race : Race calls o₀ w ms)
    (h : Race.Inv calls w ms o₀ o f) (hw : Won calls w ms o₀ o f k l) (hi : calls[i]? = some c)
    (hs : Step c (f i) o e x' o') (hread : ∀ t, e = ⟨.now, .answer t⟩ → Reads ms i t) :
    Won calls w ms o₀ o' (moved f i x') k l := by
  have hki : k ≠ i := by
    rintro rfl
    exact hs.not_ended hw.ended
  have hrow := Office.keeps_row hs.answers hw.row hw.running fun ht =>
    hw.not_ends race h hi hs
      (LeaseStep.ends_of_touches (hs.timed (h.timed i)).1 hw.storable ht)
  refine ⟨hw.entered, hw.takes, hw.storable, hw.new, hw.workType, hw.running, hrow, ?_, ?_⟩
  · rw [moved_ne f x' hki]
    exact hw.ended
  · intro j timeout hj hjk r hr
    by_cases hji : j = i
    · subst hji
      obtain rfl := Option.some.inj (hi.symm.trans hj)
      rw [moved_self] at hr
      exact hw.turned_away race hj hs hread hr
    · rw [moved_ne f x' hji] at hr
      exact hw.others j timeout hj hjk r hr

/-- What a call knows of the time it knows from its own reading. -/
theorem Race.Inv.informed_step (h : Race.Inv calls w ms o₀ o f) (hk : calls[k]? = some c)
    (hs : Step c (f k) o e x' o') (hread : ∀ t, e = ⟨.now, .answer t⟩ → Reads ms k t) (j : Nat)
    (timeout : Span) (t d : Instant) (hj : Enters calls w j timeout)
    (hx : (moved f k x' j).times? = some (t, d)) : Reads ms j t ∧ t.add? timeout = some d := by
  by_cases hjk : j = k
  · subst hjk
    obtain rfl := Option.some.inj (hk.symm.trans hj)
    rw [moved_self] at hx
    have hinf := h.informed j timeout
    generalize f j = x at hs hinf
    cases hs with
    | read hnow ht hd =>
      cases hx
      exact ⟨hread _ rfl, hd⟩
    | clear => exact hinf t d hj hx
    | draw hid => exact hinf t d hj hx
    | _ => cases hx
  · rw [moved_ne f x' hjk] at hx
    exact h.informed j timeout t d hj hx

theorem Race.Inv.step (race : Race calls o₀ w ms) (h : Race.Inv calls w ms o₀ o f)
    (hk : calls[k]? = some c) (hs : Step c (f k) o e x' o')
    (hread : ∀ t, e = ⟨.now, .answer t⟩ → Reads ms k t)
    (htake : ∀ row, e = ⟨.acquire row, .answer (.ok true)⟩ → Takes ms k) :
    Race.Inv calls w ms o₀ o' (moved f k x') := by
  refine ⟨h.ids.step hs, timed_moved h.timed (hs.timed (h.timed k)).2,
    h.informed_step hk hs hread, ?_⟩
  obtain ho | ⟨k', l, hw⟩ := h.phase
  · by_cases hc : ∃ timeout, c = begin w timeout
    · obtain ⟨timeout, rfl⟩ := hc
      exact h.caller race ho hk hs hread htake
    · exact .inl (ho.other hk (fun timeout hc' => hc ⟨timeout, hc'⟩) hs)
  · exact .inr ⟨k', l, hw.step race h hk hs hread⟩

theorem Race.inv_start (race : Race calls o₀ w ms) :
    Race.Inv calls w ms o₀ o₀ (start calls) := by
  have hstart : ∀ k, start calls k = .opening .reading ∨ start calls k = .returning := by
    intro k
    rw [start]
    split
    · rename_i c _
      cases c
      · exact .inl rfl
      · exact .inr rfl
    · exact .inr rfl
  have hid : ∀ k, (start calls k).id? = none := fun k => by
    obtain h | h := hstart k <;> rw [h] <;> rfl
  have htimes : ∀ k, (start calls k).times? = none := fun k => by
    obtain h | h := hstart k <;> rw [h] <;> rfl
  refine ⟨⟨race.known, fun id h => h, ?_, ?_, ?_⟩, fun k => ?_, fun k timeout t d hk ht => ?_,
    .inl ⟨?_, .inr ⟨race.vacant, ?_⟩⟩⟩
  · intro k id hk
    rw [hid] at hk
    cases hk
  · intro k id hk
    rw [hid] at hk
    cases hk
  · intro j k id hj
    rw [hid] at hj
    cases hj
  · obtain h | h := hstart k <;> rw [h] <;> trivial
  · rw [htimes] at ht
    cases ht
  · intro k timeout hk r hr
    obtain h | h := hstart k <;> rw [h] at hr <;> cases hr
  · intro k timeout hk
    rw [start, hk]
    exact .inl rfl

/-- Exactly one caller of a race obtains the lease, and the others are told that work is in
progress. -/
theorem Race.winner (race : Race calls o₀ w ms) : ∃ k timeout id, Enters calls w k timeout ∧
    ((assemble calls o₀).last ms).speakers[k]? = some (.done (.ok id)) ∧
    ∀ j timeout, Enters calls w j timeout → j ≠ k →
      ((assemble calls o₀).last ms).speakers[j]? = some (.done (.error (.workInProgress w))) := by
  obtain ⟨f, hs, h⟩ := race.run.invariant
    (p := fun a => ∃ f, a.Stand (Place calls) f ∧ Race.Inv calls w ms o₀ a.state f)
    ⟨_, stand_start calls o₀, race.inv_start⟩ (by
      rintro m hm hl ⟨f, hs, h⟩
      obtain ⟨c, x', hc, hstep, hs', -⟩ := exists_step hl hs
      refine ⟨_, hs', h.step race hc hstep (fun t he => ⟨m, hm, rfl, he⟩) ?_⟩
      exact fun row he => ⟨m, hm, rfl, row, he⟩)
  -- Whoever is through stands at its end.
  have hend : ∀ k timeout, Enters calls w k timeout → ∃ r, f k = .ended r ∧
      ((assemble calls o₀).last ms).speakers[k]? = some (unsettle r) := by
    intro k timeout hk
    obtain ⟨r, hr⟩ := race.ended k timeout hk
    obtain ⟨c, hc, hx⟩ := hs k _ hr
    exact ⟨r, hx.ended_inv rfl, hr⟩
  obtain ho | ⟨k, l, hw⟩ := h.phase
  · obtain ⟨k, timeout, hk⟩ := race.entered
    obtain ⟨r, hr, -⟩ := hend k timeout hk
    exact absurd hr (ho.pending k timeout hk r)
  · obtain ⟨timeout, t, hk, -⟩ := hw.entered
    refine ⟨k, timeout, l.id, hk, ?_, fun j timeout' hj hjk => ?_⟩
    · obtain ⟨r, hr, hd⟩ := hend k timeout hk
      rw [hw.ended] at hr
      cases hr
      exact hd
    · obtain ⟨r, hr, hd⟩ := hend j timeout' hj
      rw [hd, hw.others j timeout' hj hjk r hr]
      rfl

end LeaseCall

/-! ## Exclusion -/

open LeaseCall in
/-- For any calls in any order: from the moment that a lease is put in, and as long as no step ends
it, its row stays as it is, and an acquisition of the work type changes nothing and ends its call
with the fault that work is in progress. Of the callers in a race exactly one obtains the lease. -/
theorem lease_excludes :
    (∀ (calls : List LeaseCall) (o : Office)
      (earlier later : List (Moment LeaseStep Office (Except Fault Uuid)))
      (m : Moment LeaseStep Office (Except Fault Uuid)) (l : Lease),
      IsRun Office.answers (assemble calls o) (earlier ++ m :: later) →
      m.exchange = ⟨.acquire (.ofLease l), .answer (.ok true)⟩ → l.deadline.Storable →
      (∀ e ∈ later, ¬ e.exchange.question.Ends l) →
      (LeaseRow.ofLease l).isRunning = true ∧
      m.after.state.table.row? l.workType = some (.ofLease l) ∧
      ∀ e ∈ later, e.after.state.table.row? l.workType = some (.ofLease l) ∧
        ∀ row, e.exchange.question = .acquire row → row.workType = l.workType →
          e.exchange = ⟨.acquire row, .answer (.ok false)⟩ ∧ e.after.state = e.before.state ∧
          e.after.speakers[e.who]? = some (.done (.error (.workInProgress l.workType)))) ∧
    ∀ (calls : List LeaseCall) (o : Office) (w : String)
      (ms : List (Moment LeaseStep Office (Except Fault Uuid))), Race calls o w ms →
      ∃ k timeout id, Enters calls w k timeout ∧
        ((assemble calls o).last ms).speakers[k]? = some (.done (.ok id)) ∧
        ∀ j timeout, Enters calls w j timeout → j ≠ k →
          ((assemble calls o).last ms).speakers[j]? =
            some (.done (.error (.workInProgress w))) := by
  refine ⟨fun calls o earlier later m l run hm hd hends => ?_, fun calls o w ms => Race.winner⟩
  obtain ⟨run₁, hlast, hlaw, run₂⟩ := IsRun.append.mp run
  obtain ⟨f, hs, ht⟩ := exists_stand o run₁
  rw [← hlast] at hs
  obtain ⟨c, x', -, hstep, hs', -⟩ := exists_step hlaw hs
  have htaken : taken? m.exchange = some (.ofLease l) := by
    rw [hm]
    rfl
  obtain ⟨hl, hrow⟩ := hstep.taken htaken
  have hg : Guarded calls l m.after _ := ⟨hs', timed_moved ht (hstep.timed (ht _)).2, hrow⟩
  refine ⟨hl, hrow, fun e he => ?_⟩
  obtain ⟨hlaw', ⟨_, hbefore⟩, _, hafter⟩ := Guarded.run run₂ ⟨_, hg⟩ hd hl hends e he
  exact ⟨hafter.row, fun row hq hw => hbefore.missed hlaw' hl hq hw⟩

/-! ### Two callers -/

namespace Rivals

open LeaseCall

/-- The instant at which the clock stands. -/
def noon : Instant := ⟨1700000000, 0⟩

/-- A lease of which the deadline has passed. -/
def overdue : Lease where
  id := ⟨0⟩
  workType := "resolution"
  status := .running
  start := ⟨1699999000, 0⟩
  finish := none
  deadline := ⟨1699999999, 0⟩

/-- Two processes that want a lease for ten seconds. -/
def calls : List LeaseCall :=
  [.begin "resolution" (.ofSeconds 10), .begin "resolution" (.ofSeconds 10)]

def office : Office := ⟨⟨[.ofLease overdue]⟩, noon, [overdue.id]⟩

/-- Both processes take their four steps, in turn. -/
def moments : List (Moment LeaseStep Office (Except Fault Uuid)) :=
  play Office.still [0, 1, 0, 1, 0, 1, 0, 1] (assemble calls office)

theorem still_moments : ∀ m ∈ moments, m.before.state.now = noon ∧
    (⟨BitVec.ofNat 128 m.before.state.drawn.length⟩ : Uuid) ∉ m.before.state.drawn := by
  decide +kernel

theorem isRun : IsRun Office.answers (assemble calls office) moments := by
  refine isRun_play fun m hm q => ?_
  obtain ⟨hnow, hfresh⟩ := still_moments m hm
  refine Office.answers_still ?_ hfresh q
  rw [hnow]
  decide

theorem eq_noon {k : Nat} {t : Instant} (h : Reads moments k t) : t = noon := by
  obtain ⟨m, hm, -, he⟩ := h
  have hr := reply_of_mem_play hm
  rw [he] at hr
  cases hr
  exact (still_moments m hm).1

theorem span_of_enters {k : Nat} {timeout : Span} (h : Enters calls "resolution" k timeout) :
    (k = 0 ∨ k = 1) ∧ timeout = .ofSeconds 10 := by
  match k, h with
  | 0, h => cases h; exact ⟨.inl rfl, rfl⟩
  | 1, h => cases h; exact ⟨.inr rfl, rfl⟩
  | k + 2, h => cases h

theorem race : Race calls office "resolution" moments where
  run := isRun
  entered := ⟨0, _, rfl⟩
  ended k timeout hk := by
    obtain ⟨rfl | rfl, -⟩ := span_of_enters hk
    · exact ⟨.answer (.ok ⟨1⟩), rfl⟩
    · exact ⟨.answer (.error (.workInProgress "resolution")), rfl⟩
  known := by
    intro r hr
    obtain rfl := List.mem_singleton.mp hr
    exact ⟨overdue.id, List.mem_singleton.mpr rfl, rfl⟩
  returned id success h := by
    simp [calls] at h
  vacant := by
    intro r hr hw hrun
    obtain rfl := List.mem_singleton.mp hr
    refine ⟨overdue.deadline, by decide, rfl, fun k timeout t hk ht => ?_⟩
    rw [eq_noon ht]
    decide
  deadlines k timeout t hk ht := by
    obtain ⟨-, rfl⟩ := span_of_enters hk
    rw [eq_noon ht]
    exact ⟨⟨1700000010, 0⟩, by decide, by decide⟩
  held := by
    intro j k s s' t t' deadline hj hk ht _ ht' hd
    obtain ⟨-, rfl⟩ := span_of_enters hk
    rw [eq_noon ht'] at hd
    rw [eq_noon ht]
    cases hd
    decide

/-- The lease that is taken. -/
def taken : Lease := Lease.Stage.lease "resolution" ⟨1⟩ noon ⟨1700000010, 0⟩

/-- The moment in which it is taken. -/
def taking : Moment LeaseStep Office (Except Fault Uuid) where
  before := (assemble calls office).last (moments.take 6)
  who := 0
  exchange := ⟨.acquire (.ofLease taken), .answer (.ok true)⟩
  after := (assemble calls office).last (moments.take 7)

theorem moments_eq : moments = moments.take 6 ++ taking :: moments.drop 7 := rfl

end Rivals

open LeaseCall Rivals in
theorem lease_excludes_rival :
    (taking.after.state.table.row? "resolution" = some (.ofLease taken) ∧
      ∀ e ∈ moments.drop 7, e.after.state.table.row? "resolution" = some (.ofLease taken)) ∧
    ∃ k timeout id, Enters calls "resolution" k timeout ∧
      ((assemble calls office).last moments).speakers[k]? = some (.done (.ok id)) ∧
      ∀ j timeout, Enters calls "resolution" j timeout → j ≠ k →
        ((assemble calls office).last moments).speakers[j]? =
          some (.done (.error (.workInProgress "resolution"))) := by
  refine ⟨?_, lease_excludes.2 calls office "resolution" moments race⟩
  have hends : ∀ e ∈ moments.drop 7, ¬ e.exchange.question.Ends taken := by
    intro e he
    obtain rfl := List.mem_singleton.mp he
    exact id
  obtain ⟨-, hrow, hall⟩ := lease_excludes.1 calls office (moments.take 6) (moments.drop 7) taking
    taken (moments_eq ▸ isRun) rfl (by decide) hends
  exact ⟨hrow, fun e he => (hall e he).1⟩

end Sheltering
