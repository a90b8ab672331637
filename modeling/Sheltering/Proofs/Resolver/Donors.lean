import Sheltering.Proofs.Resolver.Gates

/-!
# The search for a bundle

* `Resolver.IsDonor`: a candidate that may be asked after the holder. `Resolver.mem_donors`: the
  donors are these.
* `Resolver.DonorSearch`: how donors are asked one after the other.
* `Resolver.Search`: how the holder is asked, then the pool, then the donors.
* `Resolver.search_of_held`: every search with sane exchanges goes like that.
-/

namespace Sheltering

open Dialogue (Asks Exchange Held asks_call held_call)

namespace Resolver

open Query (IsSearch Sane)

variable {r : Resolver} {p : Proposition} {c d : String} {cs : List String}

/-! ## Donors -/

/-- The node is neither the holder nor this node. -/
def IsStranger (r : Resolver) (p : Proposition) (node : String) : Prop :=
  sameAddress node p.holder = false ∧ sameAddress node r.node = false

/-- The address is in the list, and is spelled so where it comes first. -/
def IsFirst (cs : List String) (d : String) : Prop :=
  ∃ earlier later, cs = earlier ++ d :: later ∧ ∀ c ∈ earlier, sameAddress c d = false

/-- The candidate may be asked after the holder. -/
def IsDonor (r : Resolver) (p : Proposition) (cs : List String) (d : String) : Prop :=
  r.IsStranger p d ∧ IsFirst cs d

/-- The candidates that may be asked after the holder, in their order. -/
def donors (r : Resolver) (p : Proposition) (cs : List String) : List String :=
  eligible [Text.asciiLowerText p.holder, Text.asciiLowerText r.node] cs

theorem sameAddress_eq_false {a b : String} :
    sameAddress a b = false ↔ Text.asciiLowerText a ≠ Text.asciiLowerText b := by
  rw [sameAddress, beq_eq_false_iff_ne]

theorem isFirst_nil : ¬ IsFirst [] d := by
  rintro ⟨earlier, later, he, -⟩
  cases earlier <;> cases he

theorem isFirst_cons : IsFirst (c :: cs) d ↔ d = c ∨ (sameAddress c d = false ∧ IsFirst cs d) := by
  constructor
  · rintro ⟨_ | ⟨c', earlier⟩, later, he, hearlier⟩
    · exact .inl (List.cons.inj he).1.symm
    · obtain ⟨rfl, rfl⟩ := List.cons.inj he
      obtain ⟨hc, hearlier⟩ := List.forall_mem_cons.mp hearlier
      exact .inr ⟨hc, earlier, later, rfl, hearlier⟩
  · rintro (rfl | ⟨hc, earlier, later, rfl, hearlier⟩)
    · exact ⟨[], cs, rfl, fun _ hc => nomatch hc⟩
    · exact ⟨c :: earlier, later, rfl, List.forall_mem_cons.mpr ⟨hc, hearlier⟩⟩

theorem mem_eligible {tried : List String} :
    d ∈ eligible tried cs ↔ Text.asciiLowerText d ∉ tried ∧ IsFirst cs d := by
  induction cs generalizing tried with
  | nil => exact iff_of_false List.not_mem_nil fun h => isFirst_nil h.2
  | cons c cs ih =>
    rw [isFirst_cons, sameAddress_eq_false, eligible]
    split
    · rename_i hc
      rw [List.contains_iff_mem] at hc
      rw [ih]
      grind
    · rename_i hc
      rw [List.contains_iff_mem] at hc
      rw [List.mem_cons, ih]
      grind

theorem mem_donors : d ∈ r.donors p cs ↔ r.IsDonor p cs d := by
  rw [donors, mem_eligible, IsDonor, IsStranger, sameAddress_eq_false, sameAddress_eq_false]
  simp

/-! ## Searches -/

/-- How donors that are left are asked one after the other, and what is had in the end. `n` nodes
were asked before, and `last` is the fault of the last of them. -/
inductive DonorSearch (r : Resolver) (bundle : String) :
    List String → Nat → DownloadFault → List (Exchange Query) →
      Except ResolutionFault BundleMetadata → Prop
  /-- No donor is left. -/
  | exhausted {n : Nat} {last : DownloadFault} :
    DonorSearch r bundle [] n last [] (.error (.noDonors bundle n last))
  /-- The donor that is picked has the bundle. -/
  | found {ds : List String} {n i : Nat} {last : DownloadFault} {b : BundleMetadata}
      (hi : i < ds.length) :
    DonorSearch r bundle ds n last [⟨.pick ds.length, .answer i⟩,
      ⟨.download bundle ds[i] r.downloadTimeout, .answer (.ok b)⟩] (.ok b)
  /-- The donor that is picked fails, and the others are asked. -/
  | next {ds : List String} {n i : Nat} {last fault : DownloadFault} {es : List (Exchange Query)}
      {result : Except ResolutionFault BundleMetadata} (hi : i < ds.length)
      (h : DonorSearch r bundle (ds.eraseIdx i) (n + 1) fault es result) :
    DonorSearch r bundle ds n last (⟨.pick ds.length, .answer i⟩ ::
      ⟨.download bundle ds[i] r.downloadTimeout, .answer (.error fault)⟩ :: es) result

/-- How a bundle is searched for, and what is had in the end. -/
inductive Search (r : Resolver) (p : Proposition) :
    List (Exchange Query) → Except ResolutionFault BundleMetadata → Prop
  /-- The holder has the bundle. -/
  | held {b : BundleMetadata} :
    Search r p [⟨.download p.bundle p.holder r.downloadTimeout, .answer (.ok b)⟩] (.ok b)
  /-- The holder fails, and so do the questions for candidates. -/
  | poolless {fault : DownloadFault} {trouble : Fault} {es : List (Exchange Query)}
      (hpool : (candidates r.subject p).run.Held es (.answer (.error trouble))) :
    Search r p (⟨.download p.bundle p.holder r.downloadTimeout, .answer (.error fault)⟩ :: es)
      (.error (.ofFault trouble))
  /-- The holder fails, and there is no donor. -/
  | alone {fault : DownloadFault} {cs : List String} {es : List (Exchange Query)}
      (hpool : (candidates r.subject p).run.Held es (.answer (.ok cs)))
      (hnone : r.donors p cs = []) :
    Search r p (⟨.download p.bundle p.holder r.downloadTimeout, .answer (.error fault)⟩ :: es)
      (.error (.download p.bundle p.holder fault))
  /-- The holder fails, and the donors are asked. -/
  | donors {fault : DownloadFault} {cs : List String} {es es' : List (Exchange Query)}
      {result : Except ResolutionFault BundleMetadata}
      (hpool : (candidates r.subject p).run.Held es (.answer (.ok cs)))
      (hsome : r.donors p cs ≠ []) (h : DonorSearch r p.bundle (r.donors p cs) 1 fault es' result) :
    Search r p (⟨.download p.bundle p.holder r.downloadTimeout, .answer (.error fault)⟩ ::
      (es ++ es')) result

variable {es : List (Exchange Query)}

/-- If a number is to be picked, there is one below the bound. -/
def IsPossible : Query → Prop
  | .pick n => 0 < n
  | _ => True

theorem asks_askDonors_possible {bundle : String} {ds : List String} {n : Nat}
    {last : DownloadFault} : (askDonors r bundle ds n last).Asks IsPossible := by
  fun_induction askDonors r bundle ds n last with
  | case1 => trivial
  | case2 ds n last hne ih =>
    have hpos : 0 < ds.length := List.length_pos_iff.mpr fun he => hne (List.isEmpty_iff.mpr he)
    refine Asks.bind (asks_call hpos) fun i => ?_
    split
    · rename_i hi
      refine Asks.bind (asks_call trivial) fun reply => ?_
      cases reply with
      | ok b => trivial
      | error fault => exact ih i hi fault
    · trivial

/-- A donor is picked only if one is left. -/
theorem asks_fetchBundle_possible : (fetchBundle r p).run.Asks IsPossible := by
  refine Asks.run_bind (Asks.bind (asks_call trivial) fun _ => trivial) fun reply => ?_
  cases reply with
  | ok b => trivial
  | error fault =>
    refine Asks.run_bind (asks_adapt (asks_candidates trivial trivial)) fun candidates => ?_
    dsimp only
    split
    · trivial
    · exact asks_askDonors_possible

theorem not_sane_panic {q : Query} : ¬ Sane ⟨q, .panic⟩ := by
  cases q <;> exact id

/-- A question to which there was an answer. -/
theorem held_call_sane {q : Query} {ending : Reply (Answer q)}
    (h : (Dialogue.call q).Held es ending) (sane : ∀ e ∈ es, Sane e) :
    ∃ a, ending = .answer a ∧ es = [⟨q, .answer a⟩] := by
  have hes := held_call h
  subst hes
  cases ending with
  | answer a => exact ⟨a, rfl, rfl⟩
  | panic => exact absurd (sane _ List.mem_cons_self) not_sane_panic

/-- Donors are asked one after the other. -/
theorem donorSearch_of_held {bundle : String} {ds : List String} {n : Nat} {last : DownloadFault}
    {ending : Reply (Except ResolutionFault BundleMetadata)}
    (h : (askDonors r bundle ds n last).Held es ending) (sane : ∀ e ∈ es, Sane e) :
    ∃ result, ending = .answer result ∧ DonorSearch r bundle ds n last es result := by
  fun_induction askDonors r bundle ds n last generalizing es with
  | case1 ds n last hds =>
    obtain ⟨rfl, rfl⟩ := h
    obtain rfl := List.isEmpty_iff.mp hds
    exact ⟨_, rfl, .exhausted⟩
  | case2 ds n last hne ih =>
    obtain ⟨i, es₁, es₂, rfl, h₁, h₂⟩ | ⟨h₁, -⟩ := Held.bind_inv h
    · obtain ⟨sane₁, sane₂⟩ := List.forall_mem_append.mp sane
      obtain ⟨_, he, rfl⟩ := held_call_sane h₁ sane₁
      cases he
      have hi : i < ds.length := sane₁ _ List.mem_cons_self
      rw [dif_pos hi] at h₂
      obtain ⟨reply, es₃, es₄, rfl, h₃, h₄⟩ | ⟨h₃, -⟩ := Held.bind_inv h₂
      · obtain ⟨sane₃, sane₄⟩ := List.forall_mem_append.mp sane₂
        obtain ⟨_, he, rfl⟩ := held_call_sane h₃ sane₃
        cases he
        cases reply with
        | ok b =>
          obtain ⟨rfl, rfl⟩ := h₄
          exact ⟨_, rfl, .found hi⟩
        | error fault =>
          obtain ⟨result, rfl, hsearch⟩ := ih i hi fault h₄ sane₄
          exact ⟨result, rfl, .next hi hsearch⟩
      · obtain ⟨_, he, -⟩ := held_call_sane h₃ sane₂
        cases he
    · obtain ⟨_, he, -⟩ := held_call_sane h₁ sane
      cases he

/-- The questions for candidates end with an answer. -/
theorem held_candidates {ending : Reply (Except ResolutionFault (List String))}
    (h : ((candidates r.subject p).adapt ResolutionFault.ofFault).run.Held es ending)
    (sane : ∀ e ∈ es, Sane e) :
    ∃ result, ending = .answer (result.mapError .ofFault) ∧
      (candidates r.subject p).run.Held es (.answer result) := by
  obtain ⟨reply, hreply, rfl⟩ := held_adapt h
  obtain ⟨result, rfl⟩ := settles_candidates.held hreply sane
  exact ⟨result, rfl, hreply⟩

/-- The holder is asked, then the pool, then the donors. -/
theorem search_of_held {ending : Reply (Except ResolutionFault BundleMetadata)}
    (h : (fetchBundle r p).run.Held es ending) (sane : ∀ e ∈ es, Sane e) :
    ∃ result, ending = .answer result ∧ Search r p es result := by
  obtain ⟨reply, es₁, es₂, rfl, h₁, h₂⟩ | ⟨h₁, -⟩ := Held.lift_bind_inv h
  · obtain ⟨sane₁, sane₂⟩ := List.forall_mem_append.mp sane
    obtain ⟨_, he, rfl⟩ := held_call_sane h₁ sane₁
    cases he
    cases reply with
    | ok b =>
      obtain ⟨rfl, rfl⟩ := h₂
      exact ⟨_, rfl, .held⟩
    | error fault =>
      obtain ⟨cs, es₃, es₄, rfl, h₃, h₄⟩ | ⟨trouble, h₃, rfl⟩ | ⟨h₃, -⟩ := Held.run_bind_inv h₂
      · obtain ⟨sane₃, sane₄⟩ := List.forall_mem_append.mp sane₂
        obtain ⟨result, he, hpool⟩ := held_candidates h₃ sane₃
        cases result <;> cases he
        dsimp only at h₄
        split at h₄
        · rename_i hnone
          obtain ⟨rfl, rfl⟩ := h₄
          rw [List.append_nil]
          exact ⟨_, rfl, .alone hpool hnone⟩
        · rename_i hsome
          obtain ⟨result, rfl, hsearch⟩ := donorSearch_of_held h₄ sane₄
          refine ⟨result, rfl, ?_⟩
          rw [List.singleton_append]
          exact .donors hpool hsome hsearch
      · obtain ⟨result, he, hpool⟩ := held_candidates h₃ sane₂
        cases result <;> cases he
        exact ⟨_, rfl, .poolless hpool⟩
      · obtain ⟨_, he, -⟩ := held_candidates h₃ sane₂
        cases he
  · obtain ⟨_, he, -⟩ := held_call_sane h₁ sane
    cases he

end Resolver

end Sheltering
