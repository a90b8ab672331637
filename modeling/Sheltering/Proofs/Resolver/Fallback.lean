import Mathlib.Data.List.Perm.Basic
import Sheltering.Proofs.Resolver.Donors

/-!
# Falling back to donors

Here nothing is supposed of whoever is asked but that a number that is picked is in range: a node,
the pool or the source of chance may also panic, which ends the search.

* `Resolver.Eligible`: the candidates that may be asked after the holder, in their order.
* `Resolver.AsksDonors`: they are asked in some order, each at most once, until one has the bundle.
* `Resolver.FallsBack`: the holder is asked, then the pool, then the donors.
* `Resolver.falls_back`: every search goes like that.
-/

namespace Sheltering

open Dialogue (Exchange Held held_call)

namespace Resolver

variable {r : Resolver} {p : Proposition} {bundle : String} {c d : String} {cs ds : List String}
  {es : List (Exchange Query)} {n : Nat} {last : DownloadFault}
  {ending : Reply (Except ResolutionFault BundleMetadata)}

/-! ## Donors -/

/-- A number that was picked is in range. -/
def InRange : Exchange Query → Prop
  | ⟨.pick n, .answer i⟩ => Nat.lt i n
  | _ => True

/-- The candidates that may be asked after the holder: in their order, no address twice, up to the
case of ASCII letters. -/
structure Eligible (r : Resolver) (p : Proposition) (cs ds : List String) : Prop where
  sublist : ds.Sublist cs
  distinct : ds.Pairwise fun c d => sameAddress c d = false
  mem : ∀ d, d ∈ ds ↔ r.IsDonor p cs d

theorem eligible_sublist {tried : List String} : (eligible tried cs).Sublist cs := by
  fun_induction eligible tried cs with
  | case1 => exact .slnil
  | case2 _ _ _ _ _ ih => exact ih.cons _
  | case3 _ _ _ _ _ ih => exact ih.cons_cons _

theorem eligible_distinct {tried : List String} :
    (eligible tried cs).Pairwise fun c d => sameAddress c d = false := by
  fun_induction eligible tried cs with
  | case1 => exact .nil
  | case2 _ _ _ _ _ ih => exact ih
  | case3 tried c cs key _ ih =>
    refine .cons (fun d hd => ?_) ih
    have fresh := (mem_eligible.mp hd).1
    exact sameAddress_eq_false.mpr fun same => fresh (same ▸ List.mem_cons_self)

theorem eligible_donors : r.Eligible p cs (r.donors p cs) :=
  ⟨eligible_sublist, eligible_distinct, fun _ => mem_donors⟩

/-! ## One after the other -/

/-- The questions with which donors are asked in an order: how many are left to pick from, then one.
-/
def inOrder (r : Resolver) (bundle : String) : List String → List Query
  | [] => []
  | d :: ds => .pick (ds.length + 1) :: .download bundle d r.downloadTimeout :: inOrder r bundle ds

/-- The donors are asked in some order until one has the bundle. `n` nodes were asked before, and
`last` is the fault of the last of them. -/
structure AsksDonors (r : Resolver) (bundle : String) (ds : List String) (n : Nat)
    (last : DownloadFault) (es : List (Exchange Query))
    (ending : Reply (Except ResolutionFault BundleMetadata)) : Prop where
  /-- No donor is asked twice. -/
  order : ∃ order, order.Perm ds ∧ es.map Exchange.question <+: inOrder r bundle order
  /-- The first bundle that is had ends the search and is its result. -/
  found : ∀ d b, ⟨.download bundle d r.downloadTimeout, .answer (.ok b)⟩ ∈ es →
    ending = .answer (.ok b) ∧
      es.getLast? = some ⟨.download bundle d r.downloadTimeout, .answer (.ok b)⟩
  /-- What is had comes from a donor. -/
  had : ∀ b, ending = .answer (.ok b) →
    ∃ d, ⟨.download bundle d r.downloadTimeout, .answer (.ok b)⟩ ∈ es
  /-- A search fails only when all donors were asked, and with the fault of the last of them. -/
  failed : ∀ trouble, ending = .answer (.error trouble) →
    (∃ order, order.Perm ds ∧ es.map Exchange.question = inOrder r bundle order) ∧
    ∃ fault, trouble = .noDonors bundle (n + ds.length) fault ∧
      (es = [] ∧ fault = last ∨ ∃ d, es.getLast? =
        some ⟨.download bundle d r.downloadTimeout, .answer (.error fault)⟩)
  /-- The search panics only where someone who was asked does. -/
  panicked : ending = .panic → ∃ q, es.getLast? = some ⟨q, .panic⟩

theorem inOrder_cons (r : Resolver) (bundle : String) {i : Nat} {order : List String}
    (hi : i < ds.length) (perm : order.Perm (ds.eraseIdx i)) : (ds[i] :: order).Perm ds ∧
    inOrder r bundle (ds[i] :: order) =
      .pick ds.length :: .download bundle ds[i] r.downloadTimeout :: inOrder r bundle order := by
  refine ⟨(perm.cons _).trans (List.getElem_cons_eraseIdx_perm hi), ?_⟩
  rw [inOrder, perm.length_eq, List.length_eraseIdx_of_lt hi]
  congr 2
  omega

/-- The last exchange of those that come after another is the last of all. -/
theorem getLast?_cons_cons_eq {a b e : Exchange Query} (h : es.getLast? = some e) :
    (a :: b :: es).getLast? = some e := by
  rw [List.getLast?_cons_cons, List.getLast?_cons, h]
  rfl

/-- A bundle was had of the donor that was asked now, or later. -/
theorem mem_of_asked {i m : Nat} {reply : Reply (Except DownloadFault BundleMetadata)}
    {b : BundleMetadata} (h : ⟨.download bundle d r.downloadTimeout, .answer (.ok b)⟩ ∈
      (⟨.pick m, .answer i⟩ : Exchange Query) ::
        ⟨.download bundle c r.downloadTimeout, reply⟩ :: es) :
    (d = c ∧ reply = .answer (.ok b)) ∨
      ⟨.download bundle d r.downloadTimeout, .answer (.ok b)⟩ ∈ es := by
  obtain h | h := List.mem_cons.mp h
  · cases h
  · obtain h | h := List.mem_cons.mp h
    · cases h
      exact .inl ⟨rfl, rfl⟩
    · exact .inr h

namespace AsksDonors

theorem exhausted :
    AsksDonors r bundle [] n last [] (.answer (.error (.noDonors bundle n last))) where
  order := ⟨[], .nil, List.nil_prefix⟩
  found _ _ h := nomatch h
  had _ h := nomatch h
  failed _ h := by
    cases h
    exact ⟨⟨[], .nil, rfl⟩, last, rfl, .inl ⟨rfl, rfl⟩⟩
  panicked h := nomatch h

variable {i : Nat}

theorem pickPanics (hi : 0 < ds.length) :
    AsksDonors r bundle ds n last [⟨.pick ds.length, .panic⟩] .panic where
  order := by
    obtain ⟨perm, questions⟩ := inOrder_cons r bundle hi (.refl _)
    exact ⟨_, perm, questions ▸ ⟨_, rfl⟩⟩
  found _ _ h := by
    obtain h := List.mem_singleton.mp h
    cases h
  had _ h := nomatch h
  failed _ h := nomatch h
  panicked _ := ⟨_, rfl⟩

theorem nodePanics (hi : i < ds.length) : AsksDonors r bundle ds n last
    [⟨.pick ds.length, .answer i⟩, ⟨.download bundle ds[i] r.downloadTimeout, .panic⟩] .panic where
  order := by
    obtain ⟨perm, questions⟩ := inOrder_cons r bundle hi (.refl _)
    exact ⟨_, perm, questions ▸ ⟨_, rfl⟩⟩
  found _ _ h := by
    obtain ⟨-, h⟩ | h := mem_of_asked h <;> cases h
  had _ h := nomatch h
  failed _ h := nomatch h
  panicked _ := ⟨_, rfl⟩

theorem served {b : BundleMetadata} (hi : i < ds.length) : AsksDonors r bundle ds n last
    [⟨.pick ds.length, .answer i⟩, ⟨.download bundle ds[i] r.downloadTimeout, .answer (.ok b)⟩]
    (.answer (.ok b)) where
  order := by
    obtain ⟨perm, questions⟩ := inOrder_cons r bundle hi (.refl _)
    exact ⟨_, perm, questions ▸ ⟨_, rfl⟩⟩
  found d b' h := by
    obtain ⟨rfl, he⟩ | h := mem_of_asked h
    · cases he
      exact ⟨rfl, rfl⟩
    · cases h
  had b' h := by
    cases h
    exact ⟨ds[i], List.mem_cons_of_mem _ List.mem_cons_self⟩
  failed _ h := nomatch h
  panicked h := nomatch h

theorem next {fault : DownloadFault} (hi : i < ds.length)
    (h : AsksDonors r bundle (ds.eraseIdx i) (n + 1) fault es ending) :
    AsksDonors r bundle ds n last (⟨.pick ds.length, .answer i⟩ ::
      ⟨.download bundle ds[i] r.downloadTimeout, .answer (.error fault)⟩ :: es) ending where
  order := by
    obtain ⟨order, perm, asked⟩ := h.order
    obtain ⟨perm, questions⟩ := inOrder_cons r bundle hi perm
    refine ⟨_, perm, ?_⟩
    rw [questions]
    simpa using asked
  found d b hmem := by
    obtain ⟨-, he⟩ | later := mem_of_asked hmem
    · cases he
    · obtain ⟨he, hlast⟩ := h.found d b later
      exact ⟨he, getLast?_cons_cons_eq hlast⟩
  had b he := by
    obtain ⟨d, hmem⟩ := h.had b he
    exact ⟨d, List.mem_cons_of_mem _ (List.mem_cons_of_mem _ hmem)⟩
  failed trouble he := by
    obtain ⟨⟨order, perm, asked⟩, fault', rfl, hlast⟩ := h.failed trouble he
    obtain ⟨perm, questions⟩ := inOrder_cons r bundle hi perm
    refine ⟨⟨_, perm, ?_⟩, fault', ?_, .inr ?_⟩
    · rw [questions, ← asked]
      rfl
    · congr 1
      rw [List.length_eraseIdx_of_lt hi]
      omega
    · obtain ⟨rfl, rfl⟩ | ⟨d, hd⟩ := hlast
      · exact ⟨ds[i], rfl⟩
      · exact ⟨d, getLast?_cons_cons_eq hd⟩
  panicked he := by
    obtain ⟨q, hq⟩ := h.panicked he
    exact ⟨q, getLast?_cons_cons_eq hq⟩

end AsksDonors

/-- Donors are asked in some order until one has the bundle. -/
theorem asksDonors_of_held (h : (askDonors r bundle ds n last).Held es ending)
    (inRange : ∀ e ∈ es, InRange e) : AsksDonors r bundle ds n last es ending := by
  fun_induction askDonors r bundle ds n last generalizing es with
  | case1 ds n last hds =>
    obtain ⟨rfl, rfl⟩ := h
    obtain rfl := List.isEmpty_iff.mp hds
    exact .exhausted
  | case2 ds n last hne ih =>
    have hpos : 0 < ds.length := List.length_pos_iff.mpr fun he => hne (List.isEmpty_iff.mpr he)
    obtain ⟨i, es₁, es₂, rfl, h₁, h₂⟩ | ⟨h₁, rfl⟩ := Held.bind_inv h
    · obtain ⟨inRange₁, inRange₂⟩ := List.forall_mem_append.mp inRange
      obtain rfl := held_call h₁
      have hi : i < ds.length := inRange₁ _ List.mem_cons_self
      rw [dif_pos hi] at h₂
      obtain ⟨reply, es₃, es₄, rfl, h₃, h₄⟩ | ⟨h₃, rfl⟩ := Held.bind_inv h₂
      · obtain rfl := held_call h₃
        cases reply with
        | ok b =>
          obtain ⟨rfl, rfl⟩ := h₄
          exact .served hi
        | error fault => exact .next hi (ih i hi fault h₄ (List.forall_mem_append.mp inRange₂).2)
      · obtain rfl := held_call h₃
        exact .nodePanics hi
    · obtain rfl := held_call h₁
      exact .pickPanics hpos

/-! ## Searches -/

/-- The holder is asked, then the pool, then the donors. -/
inductive FallsBack (r : Resolver) (p : Proposition) :
    List (Exchange Query) → Reply (Except ResolutionFault BundleMetadata) → Prop
  /-- The holder has the bundle, and nobody else is asked. -/
  | served {b : BundleMetadata} : FallsBack r p
    [⟨.download p.bundle p.holder r.downloadTimeout, .answer (.ok b)⟩] (.answer (.ok b))
  | holderPanics : FallsBack r p [⟨.download p.bundle p.holder r.downloadTimeout, .panic⟩] .panic
  /-- The holder fails, then the pool does, and nobody else is asked. -/
  | poolless {fault : DownloadFault} {trouble : Fault} {es : List (Exchange Query)}
      (pool : (candidates r.subject p).run.Held es (.answer (.error trouble))) :
    FallsBack r p (⟨.download p.bundle p.holder r.downloadTimeout, .answer (.error fault)⟩ :: es)
      (.answer (.error (.ofFault trouble)))
  | poolPanics {fault : DownloadFault} {es : List (Exchange Query)}
      (pool : (candidates r.subject p).run.Held es .panic) :
    FallsBack r p (⟨.download p.bundle p.holder r.downloadTimeout, .answer (.error fault)⟩ :: es)
      .panic
  /-- The holder fails, and no candidate may be asked. -/
  | alone {fault : DownloadFault} {cs : List String} {es : List (Exchange Query)}
      (pool : (candidates r.subject p).run.Held es (.answer (.ok cs)))
      (none : r.Eligible p cs []) :
    FallsBack r p (⟨.download p.bundle p.holder r.downloadTimeout, .answer (.error fault)⟩ :: es)
      (.answer (.error (.download p.bundle p.holder fault)))
  /-- The holder fails, and the candidates that may be asked are. -/
  | donors {fault : DownloadFault} {cs ds : List String} {es es' : List (Exchange Query)}
      {ending : Reply (Except ResolutionFault BundleMetadata)}
      (pool : (candidates r.subject p).run.Held es (.answer (.ok cs))) (some : ds ≠ [])
      (eligible : r.Eligible p cs ds) (asks : r.AsksDonors p.bundle ds 1 fault es' ending) :
    FallsBack r p (⟨.download p.bundle p.holder r.downloadTimeout, .answer (.error fault)⟩ ::
      (es ++ es')) ending

/-- Every search for a bundle goes like that, whoever is asked and whatever is picked. -/
theorem falls_back (h : (fetchBundle r p).run.Held es ending) (inRange : ∀ e ∈ es, InRange e) :
    r.FallsBack p es ending := by
  obtain ⟨reply, es₁, es₂, rfl, h₁, h₂⟩ | ⟨h₁, rfl⟩ := Held.lift_bind_inv h
  · obtain rfl := held_call h₁
    cases reply with
    | ok b =>
      obtain ⟨rfl, rfl⟩ := h₂
      exact .served
    | error fault =>
      rw [List.singleton_append]
      obtain ⟨cs, es₃, es₄, rfl, h₃, h₄⟩ | ⟨trouble, h₃, rfl⟩ | ⟨h₃, rfl⟩ := Held.run_bind_inv h₂
      · obtain ⟨reply, pool, he⟩ := held_adapt h₃
        obtain (_ | cs') | _ := reply <;> cases he
        dsimp only at h₄
        split at h₄
        · rename_i none
          obtain ⟨rfl, rfl⟩ := h₄
          rw [List.append_nil]
          exact .alone pool (none ▸ eligible_donors)
        · rename_i some
          refine .donors pool some eligible_donors (asksDonors_of_held h₄ fun e he => ?_)
          exact inRange e (List.mem_append_right _ (List.mem_append_right _ he))
      · obtain ⟨reply, pool, he⟩ := held_adapt h₃
        obtain (_ | _) | _ := reply <;> cases he
        exact .poolless pool
      · obtain ⟨reply, pool, he⟩ := held_adapt h₃
        obtain (_ | _) | _ := reply <;> cases he
        exact .poolPanics pool
  · obtain rfl := held_call h₁
    exact .holderPanics

namespace SecondDonor

def resolver : Resolver := ⟨.challenge, "0xME", 10000⟩

def proposition : Proposition := ⟨"c1", "0xS", "b1", 1, ⟨1, 0⟩⟩

/-- The holder fails. Two of the candidates may be asked: the later one is picked first and fails,
the other has the bundle. -/
def course : List (Exchange Query) :=
  [⟨.download "b1" "0xS" 10000, .answer (.error (.status 500))⟩,
    ⟨.holders "b1", .answer (.ok ["0xA", "0xs", "0xa", "0xme"])⟩,
    ⟨.uploader "b1", .answer (.ok "0xB")⟩,
    ⟨.pick 2, .answer (1 : Nat)⟩, ⟨.download "b1" "0xB" 10000, .answer (.error (.timedOut 10000))⟩,
    ⟨.pick 1, .answer (0 : Nat)⟩, ⟨.download "b1" "0xA" 10000, .answer (.ok (.ofId "b1"))⟩]

theorem donors_eq :
    eligible [Text.asciiLowerText proposition.holder, Text.asciiLowerText resolver.node]
      (["0xA", "0xs", "0xa", "0xme"] ++ ["0xB"]) = ["0xA", "0xB"] := by
  decide +kernel

theorem held_course :
    (fetchBundle resolver proposition).run.Held course (.answer (.ok (.ofId "b1"))) := by
  refine ⟨_, _, rfl, ?_⟩
  refine ⟨_, _, rfl, ?_⟩
  refine ⟨_, _, rfl, ?_⟩
  change Dialogue.Held (ExceptT.bindCont _ (.ok (["0xA", "0xs", "0xa", "0xme"] ++ ["0xB"]))) _ _
  rw [ExceptT.bindCont]
  dsimp only
  rw [donors_eq]
  change (askDonors _ _ _ _ _).Held _ _
  rw [askDonors]
  refine ⟨_, _, rfl, ?_⟩
  refine ⟨_, _, rfl, ?_⟩
  change (askDonors _ _ ["0xA"] _ _).Held _ _
  rw [askDonors]
  refine ⟨_, _, rfl, ?_⟩
  refine ⟨_, _, rfl, ?_⟩
  exact ⟨rfl, rfl⟩

theorem falls_back_once : (fetchBundle resolver proposition).run.Held course
      (.answer (.ok (.ofId "b1"))) ∧ (∀ e ∈ course, InRange e) ∧
    resolver.FallsBack proposition course (.answer (.ok (.ofId "b1"))) := by
  have inRange : ∀ e ∈ course, InRange e := by
    simp [course, InRange]
  exact ⟨held_course, inRange, falls_back held_course inRange⟩

end SecondDonor

end Resolver

end Sheltering
