import Sheltering.Proofs.Resolver.Course

/-!
# The law of submissions and marks

* `Resolver.Lawful`: the law, as a statement about the exchanges of an attempt and its end.
* `Resolver.Course.lawful`: an attempt that goes its course keeps the law.
* `Resolver.lawful_attempt`: every attempt keeps the law.
-/

namespace Sheltering

open Dialogue (Exchange Held)

namespace Resolver

open Query (IsGate Sane)

variable {r : Resolver} {p : Proposition} {es gates tail : List (Exchange Query)}
  {ending : Reply Outcome} {receipt : Receipt}

/-- The law of submissions and marks, for the exchanges of an attempt and its end. -/
structure Lawful (r : Resolver) (p : Proposition) (es : List (Exchange Query))
    (ending : Reply Outcome) : Prop where
  /-- There is at most one submission, one mark and one run of the hook. -/
  once : ∀ c, es.countP (·.question.commitment? == some c) ≤ 1
  /-- A submission is of the proposition, and it is authorised. -/
  submission : ∀ before p' reply after, es = before ++ ⟨.submit p', reply⟩ :: after →
    p' = p ∧ Authorised r p before
  /-- A mark is of the proposition's bundle, directly after a submission that was accepted. -/
  mark : ∀ before bundle reply after, es = before ++ ⟨.mark bundle, reply⟩ :: after →
    bundle = p.bundle ∧
      ∃ earlier receipt, before = earlier ++ [⟨.submit p, .answer (.ok receipt)⟩]
  /-- A submission that is accepted is followed by the mark. -/
  accepted : ∀ before receipt after,
    es = before ++ ⟨.submit p, .answer (.ok receipt)⟩ :: after →
    ∃ reply later, after = ⟨.mark p.bundle, reply⟩ :: later
  /-- The hook runs for the proposition, directly after a mark that succeeded. -/
  hook : ∀ before p' reply after, es = before ++ ⟨.afterResolution p', reply⟩ :: after →
    p' = p ∧ ∃ earlier, before = earlier ++ [⟨.mark p.bundle, .answer (.ok ())⟩]
  /-- A mark that succeeds is followed by the hook, which is the last to be asked. -/
  marked : ∀ before after, es = before ++ ⟨.mark p.bundle, .answer (.ok ())⟩ :: after →
    ∃ reply, after = [⟨.afterResolution p, reply⟩]
  /-- An attempt that resolves has marked the bundle. -/
  resolved : ending = .answer .resolved → ⟨.mark p.bundle, .answer (.ok ())⟩ ∈ es
  /-- An attempt that has marked the bundle has no other outcome, whatever the hook answers. -/
  outcome : ⟨.mark p.bundle, .answer (.ok ())⟩ ∈ es → ∀ outcome, ending = .answer outcome →
    outcome = .resolved
  /-- There is an outcome if nobody panics and the numbers picked are in range. -/
  settled : (∀ e ∈ es, Query.Sane e) → ∃ outcome, ending = .answer outcome

/-! ## Where a commitment is -/

/-- The exchange is of a commitment. -/
def Commits (c : Query.Commitment) (e : Exchange Query) : Prop := e.question.commitment? = some c

/-- There is no exchange of a commitment. -/
def Silent (c : Query.Commitment) (es : List (Exchange Query)) : Prop := ∀ e ∈ es, ¬ Commits c e

variable {c : Query.Commitment} {e x : Exchange Query} {before after : List (Exchange Query)}

theorem silent_gates (h : ∀ e ∈ es, e.question.IsGate) : Silent c es := by
  intro e he hc
  rw [Commits, h e he] at hc
  cases hc

theorem silent_nil : Silent c [] :=
  List.forall_mem_nil _

theorem Silent.cons (he : ¬ Commits c e) (hes : Silent c es) : Silent c (e :: es) :=
  List.forall_mem_cons.mpr ⟨he, hes⟩

theorem Silent.append (hg : Silent c gates) (ht : Silent c tail) : Silent c (gates ++ tail) :=
  List.forall_mem_append.mpr ⟨hg, ht⟩

theorem Silent.not_split (hes : Silent c es) (h : es = before ++ e :: after) : ¬ Commits c e :=
  hes e (h ▸ List.mem_append_right _ List.mem_cons_self)

/-- Where one exchange alone is of a commitment, a list is split at it in one way. -/
theorem Silent.split_eq (hg : Silent c gates) (ht : Silent c tail)
    (h : gates ++ x :: tail = before ++ e :: after) (he : Commits c e) :
    before = gates ∧ x = e ∧ after = tail := by
  induction gates generalizing before with
  | nil =>
    cases before with
    | nil =>
      obtain ⟨rfl, rfl⟩ := List.cons.inj h
      exact ⟨rfl, rfl, rfl⟩
    | cons y before =>
      obtain ⟨-, rfl⟩ := List.cons.inj h
      exact absurd he (ht.not_split rfl)
  | cons g gates ih =>
    obtain ⟨hg₁, hg⟩ := List.forall_mem_cons.mp hg
    cases before with
    | nil =>
      obtain ⟨rfl, -⟩ := List.cons.inj h
      exact absurd he hg₁
    | cons y before =>
      obtain ⟨rfl, hrest⟩ := List.cons.inj h
      obtain ⟨rfl, hx, ha⟩ := ih hg hrest
      exact ⟨rfl, hx, ha⟩

/-- An exchange of a commitment is the only one, where one alone is of it. -/
theorem Silent.mem_eq (hg : Silent c gates) (ht : Silent c tail) (h : e ∈ gates ++ x :: tail)
    (he : Commits c e) : x = e := by
  obtain ⟨before, after, h⟩ := List.append_of_mem h
  exact (hg.split_eq ht h he).2.1

theorem countP_gates (h : ∀ e ∈ es, e.question.IsGate) (c : Query.Commitment) :
    es.countP (·.question.commitment? == some c) = 0 := by
  rw [List.countP_eq_zero]
  intro e he hc
  exact silent_gates h e he (beq_iff_eq.mp hc)

/-! ## Every course is lawful -/

theorem lawful_stopped (hes : ∀ e ∈ es, e.question.IsGate) (he : ending ≠ .answer .resolved)
    (hs : (∀ e ∈ es, Sane e) → ∃ outcome, ending = .answer outcome) : Lawful r p es ending := by
  have hno : ∀ {c before after e}, es = before ++ e :: after → ¬ Commits c e := fun h =>
    (silent_gates hes).not_split h
  have hmark : ⟨.mark p.bundle, .answer (.ok ())⟩ ∉ es := fun h =>
    silent_gates (c := .mark) hes _ h rfl
  refine ⟨fun c => ?_, ?_, ?_, ?_, ?_, ?_, fun h => absurd h he, fun h => absurd h hmark, hs⟩
  · rw [countP_gates hes]
    exact Nat.zero_le 1
  · exact fun before p' reply after h => absurd rfl (hno h)
  · exact fun before bundle reply after h => absurd rfl (hno h)
  · exact fun before receipt after h => absurd rfl (hno h)
  · exact fun before p' reply after h => absurd rfl (hno h)
  · exact fun before after h => absurd rfl (hno h)

theorem lawful_refused {reply : Reply (Answer (Query.submit p))}
    (hg : ∀ e ∈ gates, e.question.IsGate) (ht : ∀ e ∈ tail, e.question.IsGate)
    (ha : Authorised r p gates) (hr : ∀ receipt, reply ≠ .answer (.ok receipt))
    (he : ending ≠ .answer .resolved)
    (hs : (∀ e ∈ gates ++ ⟨.submit p, reply⟩ :: tail, Sane e) →
      ∃ outcome, ending = .answer outcome) :
    Lawful r p (gates ++ ⟨.submit p, reply⟩ :: tail) ending := by
  have hmark : Silent .mark (gates ++ ⟨.submit p, reply⟩ :: tail) :=
    (silent_gates hg).append (.cons nofun (silent_gates ht))
  have hhook : Silent .hook (gates ++ ⟨.submit p, reply⟩ :: tail) :=
    (silent_gates hg).append (.cons nofun (silent_gates ht))
  refine ⟨fun c => ?_, fun before p' reply' after h => ?_, ?_, fun before receipt after h => ?_,
    ?_, ?_, fun h => absurd h he, fun h => absurd rfl (hmark _ h), hs⟩
  · rw [List.countP_append, List.countP_cons, countP_gates hg, countP_gates ht]
    split <;> decide
  · obtain ⟨rfl, hx, -⟩ := (silent_gates hg).split_eq (silent_gates ht) h rfl
    cases hx
    exact ⟨rfl, ha⟩
  · exact fun before bundle reply after h => (hmark.not_split h rfl).elim
  · obtain ⟨-, hx, -⟩ := (silent_gates hg).split_eq (silent_gates ht) h rfl
    cases hx
    exact absurd rfl (hr receipt)
  · exact fun before p' reply after h => (hhook.not_split h rfl).elim
  · exact fun before after h => (hmark.not_split h rfl).elim

theorem lawful_unmarked {reply : Reply (Answer (Query.mark p.bundle))}
    (hg : ∀ e ∈ gates, e.question.IsGate) (ht : ∀ e ∈ tail, e.question.IsGate)
    (ha : Authorised r p gates) (hr : reply ≠ .answer (.ok ())) (he : ending ≠ .answer .resolved)
    (hs : (∀ e ∈ gates ++ ⟨.submit p, .answer (.ok receipt)⟩ :: ⟨.mark p.bundle, reply⟩ :: tail,
      Sane e) → ∃ outcome, ending = .answer outcome) :
    Lawful r p (gates ++ ⟨.submit p, .answer (.ok receipt)⟩ :: ⟨.mark p.bundle, reply⟩ :: tail)
      ending := by
  have hsubmit : Silent .submission (⟨.mark p.bundle, reply⟩ :: tail) :=
    .cons nofun (silent_gates ht)
  have hmark : Silent .mark (gates ++ [⟨.submit p, .answer (.ok receipt)⟩]) :=
    (silent_gates hg).append (.cons nofun silent_nil)
  have hhook : Silent .hook
      (gates ++ ⟨.submit p, .answer (.ok receipt)⟩ :: ⟨.mark p.bundle, reply⟩ :: tail) :=
    (silent_gates hg).append (.cons nofun (.cons nofun (silent_gates ht)))
  -- The same list, split at the mark.
  have hat : gates ++ ⟨.submit p, .answer (.ok receipt)⟩ :: ⟨.mark p.bundle, reply⟩ :: tail =
      (gates ++ [⟨.submit p, .answer (.ok receipt)⟩]) ++ ⟨.mark p.bundle, reply⟩ :: tail :=
    List.append_cons ..
  have hnot : ⟨.mark p.bundle, .answer (.ok ())⟩ ∉
      gates ++ ⟨.submit p, .answer (.ok receipt)⟩ :: ⟨.mark p.bundle, reply⟩ :: tail := by
    intro h
    rw [hat] at h
    cases hmark.mem_eq (silent_gates ht) h rfl
    exact hr rfl
  refine ⟨fun c => ?_, fun before p' reply' after h => ?_, fun before bundle reply' after h => ?_,
    fun before receipt' after h => ?_, fun before p' reply' after h => (hhook.not_split h rfl).elim,
    fun before after h => ?_, fun h => absurd h he, fun h => absurd h hnot, hs⟩
  · rw [List.countP_append, List.countP_cons, List.countP_cons, countP_gates hg, countP_gates ht]
    cases c with
    | submission | mark => exact Nat.le_refl 1
    | hook => exact Nat.zero_le 1
  · obtain ⟨rfl, hx, -⟩ := (silent_gates hg).split_eq hsubmit h rfl
    cases hx
    exact ⟨rfl, ha⟩
  · obtain ⟨rfl, hx, -⟩ := hmark.split_eq (silent_gates ht) (hat.symm.trans h) rfl
    cases hx
    exact ⟨rfl, gates, receipt, rfl⟩
  · obtain ⟨-, -, rfl⟩ := (silent_gates hg).split_eq hsubmit h rfl
    exact ⟨reply, tail, rfl⟩
  · exact absurd (h ▸ List.mem_append_right _ List.mem_cons_self) hnot

theorem lawful_marked {reply : Reply (Answer (Query.afterResolution p))}
    (hg : ∀ e ∈ gates, e.question.IsGate) (ha : Authorised r p gates)
    (hs : (∀ e ∈ gates ++ [⟨.submit p, .answer (.ok receipt)⟩,
      ⟨.mark p.bundle, .answer (.ok ())⟩, ⟨.afterResolution p, reply⟩], Sane e) →
        ∃ outcome, (reply.map fun _ => Outcome.resolved) = .answer outcome) :
    Lawful r p (gates ++ [⟨.submit p, .answer (.ok receipt)⟩, ⟨.mark p.bundle, .answer (.ok ())⟩,
      ⟨.afterResolution p, reply⟩]) (reply.map fun _ => .resolved) := by
  have hsubmit : Silent .submission
      [⟨.mark p.bundle, .answer (.ok ())⟩, ⟨.afterResolution p, reply⟩] :=
    .cons nofun (.cons nofun silent_nil)
  have hmark : Silent .mark (gates ++ [⟨.submit p, .answer (.ok receipt)⟩]) :=
    (silent_gates hg).append (.cons nofun silent_nil)
  have hlast : Silent .mark [⟨.afterResolution p, reply⟩] := .cons nofun silent_nil
  have hhook : Silent .hook
      (gates ++ [⟨.submit p, .answer (.ok receipt)⟩, ⟨.mark p.bundle, .answer (.ok ())⟩]) :=
    (silent_gates hg).append (.cons nofun (.cons nofun silent_nil))
  have hatMark : gates ++ [⟨.submit p, .answer (.ok receipt)⟩, ⟨.mark p.bundle, .answer (.ok ())⟩,
      ⟨.afterResolution p, reply⟩] = (gates ++ [⟨.submit p, .answer (.ok receipt)⟩]) ++
        [⟨.mark p.bundle, .answer (.ok ())⟩, ⟨.afterResolution p, reply⟩] :=
    List.append_cons ..
  have hatHook : gates ++ [⟨.submit p, .answer (.ok receipt)⟩, ⟨.mark p.bundle, .answer (.ok ())⟩,
      ⟨.afterResolution p, reply⟩] = (gates ++ [⟨.submit p, .answer (.ok receipt)⟩,
        ⟨.mark p.bundle, .answer (.ok ())⟩]) ++ [⟨.afterResolution p, reply⟩] :=
    (List.append_assoc gates [_, _] [_]).symm
  refine ⟨fun c => ?_, fun before p' reply' after h => ?_, fun before bundle reply' after h => ?_,
    fun before receipt' after h => ?_, fun before p' reply' after h => ?_,
    fun before after h => ?_, fun _ => ?_, fun _ outcome ho => ?_, hs⟩
  · rw [List.countP_append, List.countP_cons, List.countP_cons, List.countP_cons, countP_gates hg]
    cases c with
    | submission | mark | hook => exact Nat.le_refl 1
  · obtain ⟨rfl, hx, -⟩ := (silent_gates hg).split_eq hsubmit h rfl
    cases hx
    exact ⟨rfl, ha⟩
  · obtain ⟨rfl, hx, -⟩ := hmark.split_eq hlast (hatMark.symm.trans h) rfl
    cases hx
    exact ⟨rfl, gates, receipt, rfl⟩
  · obtain ⟨-, -, rfl⟩ := (silent_gates hg).split_eq hsubmit h rfl
    exact ⟨_, _, rfl⟩
  · obtain ⟨rfl, hx, -⟩ := hhook.split_eq silent_nil (hatHook.symm.trans h) rfl
    cases hx
    exact ⟨rfl, gates ++ [⟨.submit p, .answer (.ok receipt)⟩], List.append_cons ..⟩
  · obtain ⟨-, -, rfl⟩ := hmark.split_eq hlast (hatMark.symm.trans h) rfl
    exact ⟨reply, rfl⟩
  · exact List.mem_append_right _ (List.mem_cons_of_mem _ List.mem_cons_self)
  · cases reply with
    | answer _ => exact (Reply.answer.inj ho).symm
    | panic => cases ho

/-- An attempt that goes its course keeps the law. -/
theorem Course.lawful (h : Course (Authorised r p) p es ending)
    (hs : (∀ e ∈ es, Sane e) → ∃ outcome, ending = .answer outcome) : Lawful r p es ending := by
  cases h with
  | stopped hes he => exact lawful_stopped hes he hs
  | refused hg ht ha hr he => exact lawful_refused hg ht ha hr he hs
  | unmarked hg ht ha hr he => exact lawful_unmarked hg ht ha hr he hs
  | marked hg ha => exact lawful_marked hg ha hs

/-- Every attempt keeps the law. -/
theorem lawful_attempt (h : (attempt r p).Held es ending) : Lawful r p es ending :=
  (held_attempt h).lawful (settles_attempt.held h)

end Resolver

end Sheltering
