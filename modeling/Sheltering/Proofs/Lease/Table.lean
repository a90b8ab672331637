import Sheltering.Lease.Table

/-!
# What the statements do to a row

* `LeaseTable.row?`: the row of a work type.
* `LeaseTable.Free`: no row of a work type is running.
* `LeaseTable.acquisition`: what an acquisition comes to, case by case.
* `LeaseTable.acquire_of_running`, `LeaseTable.acquire_of_free`: a running row keeps every other row
  out, and nothing else does.
-/

namespace Sheltering.LeaseTable

/-- The row of a work type. -/
def row? (t : LeaseTable) (workType : String) : Option LeaseRow :=
  t.rows.find? (·.workType == workType)

/-- No row of the work type is running. -/
def Free (t : LeaseTable) (workType : String) : Prop :=
  ∀ r ∈ t.rows, r.workType = workType → r.isRunning = false

variable {t t' : LeaseTable} {w : String} {r row : LeaseRow} {now : Instant}

theorem workType_of_row? (h : t.row? w = some r) : r.workType = w := by
  simpa using List.find?_some h

theorem mem_of_row? (h : t.row? w = some r) : r ∈ t.rows := List.mem_of_find?_eq_some h

/-! ## Updates -/

/-- An update that keeps the work types changes the row of a work type if it passes the test. -/
theorem row?_update {test : LeaseRow → Bool} {change : LeaseRow → LeaseRow}
    (h : ∀ r, (change r).workType = r.workType) :
    (t.update test change).2.row? w =
      (t.row? w).map fun r => if test r then change r else r := by
  rw [row?, update, List.find?_map, row?]
  refine congrArg _ (congrFun (congrArg _ (funext fun r => ?_)) _)
  rw [Function.comp]
  split
  · rw [h]
  · rfl

theorem mem_update {test : LeaseRow → Bool} {change : LeaseRow → LeaseRow} :
    r ∈ (t.update test change).2.rows ↔ ∃ r' ∈ t.rows, (if test r' then change r' else r') = r := by
  rw [update, List.mem_map]

/-- An update of rows of which none passes the test changes nothing. -/
theorem update_eq_self {test : LeaseRow → Bool} {change : LeaseRow → LeaseRow}
    (h : ∀ r ∈ t.rows, test r = false) : (t.update test change).2 = t := by
  have hmap : t.rows.map (fun r => if test r then change r else r) = t.rows.map id :=
    List.map_congr_left fun r hr => if_neg (Bool.eq_false_iff.mp (h r hr))
  rw [update, hmap, List.map_id]

/-- An update that keeps the work types keeps how many rows each of them has. -/
theorem map_workType_update {test : LeaseRow → Bool} {change : LeaseRow → LeaseRow}
    (h : ∀ r, (change r).workType = r.workType) :
    (t.update test change).2.rows.map (·.workType) = t.rows.map (·.workType) := by
  rw [update, List.map_map]
  refine List.map_congr_left fun r _ => ?_
  rw [Function.comp]
  split
  · exact h r
  · rfl

/-- A row outlives the statement of an instant before its deadline. -/
theorem row?_expire_of_lt {w' : String} (h : t.row? w = some r)
    (hd : w' = w → ¬ r.deadline ≤ now.stored) : (t.expire w' now).2.row? w = some r := by
  have hr := workType_of_row? h
  rw [expire, row?_update (by intro r; rfl), h, Option.map_some, if_neg]
  intro ht
  simp only [Bool.and_eq_true, beq_iff_eq, decide_eq_true_eq] at ht
  exact hd (ht.1.1.symm.trans hr) ht.2

/-- A row outlives the closing of another identifier. -/
theorem row?_close_of_ne {id : Uuid} {success : Bool} (h : t.row? w = some r)
    (hid : r.id ≠ id.text) : (t.close id success now).2.row? w = some r := by
  rw [close, row?_update (by intro r; rfl), h, Option.map_some, if_neg (by simpa using hid)]

/-- After a deadline has passed the work type is free. -/
theorem free_expire (h : ∀ r ∈ t.rows, r.workType = w → r.isRunning = true →
    r.deadline ≤ now.stored) : (t.expire w now).2.Free w := by
  intro r hr hw
  obtain ⟨r', hr', rfl⟩ := mem_update.mp hr
  split
  · rfl
  · rename_i hn
    rw [if_neg hn] at hw
    simp only [Bool.and_eq_true, beq_iff_eq, decide_eq_true_eq, not_and] at hn
    cases hrun : r'.isRunning
    · rfl
    · exact absurd (h r' hr' hw hrun) (hn ⟨hw, hrun⟩)

/-- The names of the other statuses are not that of a running lease. -/
theorem isRunning_finished (r : LeaseRow) (success : Bool) (finish : Option String) :
    { r with status := (LeaseStatus.finished success).name, finish }.isRunning = false := by
  cases success <;> rfl

theorem Free.expire {w' : String} (h : t.Free w) : (t.expire w' now).2.Free w := by
  intro r hr hw
  obtain ⟨r', hr', rfl⟩ := mem_update.mp hr
  split
  · rfl
  · rename_i hn
    rw [if_neg hn] at hw
    exact h r' hr' hw

/-- Nothing of a free work type can be ended. -/
theorem Free.expire_eq (h : t.Free w) : (t.expire w now).2 = t := by
  refine update_eq_self fun r hr => Bool.eq_false_iff.mpr fun htest => ?_
  simp only [Bool.and_eq_true, beq_iff_eq] at htest
  exact Bool.false_ne_true ((h r hr htest.1.1).symm.trans htest.1.2)

/-! ## Acquisition -/

/-- A row is put in, in the place of the rows of its work type or after all others. -/
inductive Puts (t : LeaseTable) (row : LeaseRow) : LeaseTable → Prop
  | replace {r : LeaseRow} (h : t.row? row.workType = some r) :
    Puts t row ⟨t.rows.map fun r => if r.workType == row.workType then row else r⟩
  | add (h : ∀ r ∈ t.rows, r.workType ≠ row.workType) : Puts t row ⟨t.rows ++ [row]⟩

/-- What an acquisition comes to. -/
inductive Acquisition (t : LeaseTable) (row : LeaseRow) : Except Fault (Bool × LeaseTable) → Prop
  | miss (h : ¬ t.Free row.workType) : Acquisition t row (.ok (false, t))
  | clash (free : t.Free row.workType)
      (h : ∃ r ∈ t.rows, r.workType ≠ row.workType ∧ r.id = row.id) :
    Acquisition t row (.error (.database "the identifier is taken"))
  | take {t' : LeaseTable} (free : t.Free row.workType) (puts : Puts t row t') :
    Acquisition t row (.ok (true, t'))

theorem acquisition (t : LeaseTable) (row : LeaseRow) : Acquisition t row (t.acquire row) := by
  rw [acquire]
  split
  · rename_i hrun
    simp only [List.any_eq_true, Bool.and_eq_true, beq_iff_eq] at hrun
    obtain ⟨r, hr, hw, hrun⟩ := hrun
    exact .miss fun hfree => Bool.false_ne_true ((hfree r hr hw).symm.trans hrun)
  rename_i hrun
  have hfree : t.Free row.workType := by
    simpa [Free] using hrun
  split
  · rename_i hclash
    exact .clash hfree (by simpa using hclash)
  split
  · rename_i hany
    obtain ⟨r, hr⟩ : ∃ r, t.row? row.workType = some r := by
      rw [← Option.isSome_iff_exists, row?, List.find?_isSome, ← List.any_eq_true]
      exact hany
    exact .take hfree (.replace hr)
  · rename_i hnew
    exact .take hfree (.add (by simpa using hnew))

/-- A running row keeps every other row of its work type out. -/
theorem acquire_of_running (h : t.row? row.workType = some r) (hr : r.isRunning = true) :
    t.acquire row = .ok (false, t) := by
  have hw := workType_of_row? h
  rw [acquire, if_pos]
  rw [List.any_eq_true]
  exact ⟨r, mem_of_row? h, by simp [hw, hr]⟩

/-- The row put in the place of the rows of its work type is the row of the work type. -/
theorem row?_replace_self (h : t.row? row.workType = some r) :
    (LeaseTable.mk (t.rows.map fun r => if r.workType == row.workType then row else r)).row?
      row.workType = some row := by
  have hp : (fun r : LeaseRow => r.workType == row.workType) ∘
      (fun r => if r.workType == row.workType then row else r) =
      fun r => r.workType == row.workType := by
    funext r
    rw [Function.comp]
    split
    · simp_all
    · rfl
  have hr := workType_of_row? h
  rw [row?] at h
  rw [row?, List.find?_map, hp, h, Option.map_some, if_pos (beq_iff_eq.mpr hr)]

/-- A row put in the place of the rows of its work type changes the row of no other. -/
theorem row?_replace_other (hw : w ≠ row.workType) :
    (LeaseTable.mk (t.rows.map fun r => if r.workType == row.workType then row else r)).row? w =
      t.row? w := by
  have hp : (fun r : LeaseRow => r.workType == w) ∘
      (fun r => if r.workType == row.workType then row else r) = fun r => r.workType == w := by
    funext r
    rw [Function.comp]
    split
    · rename_i hr
      rw [beq_iff_eq.mp hr]
    · rfl
  rw [row?, List.find?_map, hp, ← row?]
  cases h : t.row? w with
  | none => rfl
  | some r =>
    have hr := workType_of_row? h
    rw [Option.map_some, if_neg (by simpa [hr] using hw)]

/-- What an acquisition does when it puts in its row. -/
structure Acquired (t : LeaseTable) (row : LeaseRow) (t' : LeaseTable) : Prop where
  free : t.Free row.workType
  self : t'.row? row.workType = some row
  other : ∀ w, w ≠ row.workType → t'.row? w = t.row? w
  rows : ∀ r ∈ t'.rows, r = row ∨ r ∈ t.rows

/-- An acquisition does nothing, or it puts in its row. -/
theorem acquire_cases {taken : Bool} (h : t.acquire row = .ok (taken, t')) :
    (taken = false ∧ t' = t) ∨ (taken = true ∧ Acquired t row t') := by
  have hcases := acquisition t row
  rw [h] at hcases
  cases hcases with
  | miss => exact .inl ⟨rfl, rfl⟩
  | take hfree hputs =>
    refine .inr ⟨rfl, ?_⟩
    cases hputs with
    | replace hr =>
      refine ⟨hfree, row?_replace_self hr, fun w hw => row?_replace_other hw, fun r hr => ?_⟩
      obtain ⟨r', hr', rfl⟩ := List.mem_map.mp hr
      split
      · exact .inl rfl
      · exact .inr hr'
    | add hnew =>
      have hnone : t.rows.find? (·.workType == row.workType) = none :=
        List.find?_eq_none.mpr fun r hr => by simpa using hnew r hr
      refine ⟨hfree, ?_, fun w hw => ?_, fun r hr => ?_⟩
      · rw [row?, List.find?_append, hnone]
        simp
      · rw [row?, List.find?_append, row?]
        simp [Ne.symm hw]
      · exact (List.mem_append.mp hr).symm.imp List.mem_singleton.mp id

/-- The table has at most one row for each work type. -/
def Single (t : LeaseTable) : Prop := (t.rows.map (·.workType)).Nodup

theorem row?_eq_some_iff (h : t.Single) : t.row? w = some r ↔ r ∈ t.rows ∧ r.workType = w := by
  constructor
  · exact fun hr => ⟨mem_of_row? hr, workType_of_row? hr⟩
  · rintro ⟨hr, rfl⟩
    cases hfound : t.row? r.workType with
    | none => simpa using List.find?_eq_none.mp hfound r hr
    | some r' =>
      have hsame : t.rows.Pairwise fun a b => a.workType = b.workType → a = b :=
        (List.pairwise_map.mp h).imp fun hne he => absurd he hne
      have hall := List.Pairwise.forall_of_forall_of_flip (fun _ _ _ => rfl) hsame
        (hsame.imp fun hab he => (hab he.symm).symm)
      rw [hall (mem_of_row? hfound) hr (workType_of_row? hfound)]

/-- The acquired row is the only one of its work type. -/
theorem Single.acquire {taken : Bool} (h : t.Single) (ha : t.acquire row = .ok (taken, t')) :
    t'.Single := by
  have hcases := acquisition t row
  rw [ha] at hcases
  cases hcases with
  | miss => exact h
  | take _ hputs =>
    cases hputs with
    | replace =>
      have hmap : (t.rows.map fun r => if r.workType == row.workType then row else r).map
          (·.workType) = t.rows.map (·.workType) := by
        rw [List.map_map]
        refine List.map_congr_left fun r _ => ?_
        rw [Function.comp]
        split
        · rename_i hr
          exact (beq_iff_eq.mp hr).symm
        · rfl
      rw [Single, hmap]
      exact h
    | add hnew =>
      rw [Single, List.map_append, List.nodup_append]
      refine ⟨h, List.pairwise_singleton _ _, fun a ha b hb hab => ?_⟩
      obtain ⟨r, hr, rfl⟩ := List.mem_map.mp ha
      rw [List.map_singleton, List.mem_singleton] at hb
      exact hnew r hr (hab.trans hb)

/-- The acquired row takes the place of all rows of its work type. -/
theorem eq_of_acquire (h : t.acquire row = .ok (true, t')) (hr : r ∈ t'.rows)
    (hw : r.workType = row.workType) : r = row := by
  have hcases := acquisition t row
  rw [h] at hcases
  cases hcases with
  | take _ hputs =>
    cases hputs with
    | replace =>
      obtain ⟨r', -, rfl⟩ := List.mem_map.mp hr
      split
      · rfl
      · rename_i hne
        rw [if_neg hne] at hw
        exact absurd (beq_iff_eq.mpr hw) hne
    | add hnew =>
      obtain hr | hr := List.mem_append.mp hr
      · exact absurd hw (hnew r hr)
      · exact List.mem_singleton.mp hr

/-- Nobody who comes to a free work type is told that another row is running. -/
theorem Free.taken {taken : Bool} (h : t.Free row.workType)
    (ha : t.acquire row = .ok (taken, t')) : taken = true := by
  have hcases := acquisition t row
  rw [ha] at hcases
  cases hcases with
  | miss hrun => exact absurd h hrun
  | take => rfl

/-- The one fault of an acquisition. -/
theorem acquire_fault {fault : Fault} (h : t.acquire row = .error fault) :
    fault = .database "the identifier is taken" := by
  have hcases := acquisition t row
  rw [h] at hcases
  cases hcases with
  | clash => rfl

/-- A free work type can be taken with an identifier that no other work type has. -/
theorem acquire_of_free (h : t.Free row.workType)
    (hid : ∀ r ∈ t.rows, r.id = row.id → r.workType = row.workType) :
    ∃ t', t.acquire row = .ok (true, t') := by
  have hcases := acquisition t row
  generalize t.acquire row = answer at hcases ⊢
  cases hcases with
  | miss hrun => exact absurd h hrun
  | clash _ hclash =>
    obtain ⟨r, hr, hw, he⟩ := hclash
    exact absurd (hid r hr he) hw
  | take => exact ⟨_, rfl⟩

end Sheltering.LeaseTable
