import Sheltering.Proofs.Resolver.Gates

/-!
# The course of an attempt

* `Resolver.Authorised`: the exchanges that must come before a submission.
* `Resolver.Course`: how an attempt may go. It stops at a gate, or at its submission, or at its
  mark, or it has run its hook.
* `Resolver.held_attempt`: every attempt goes like that.
* `Resolver.settles_attempt`: an attempt has an outcome if its exchanges are sane.
-/

namespace Sheltering

open Dialogue (Asks Exchange Held Settles asks_call held_call settles_call run)

namespace Resolver

open Query (IsGate Sane)

variable {r : Resolver} {p : Proposition} {es es₁ es₂ : List (Exchange Query)}
  {auth : List (Exchange Query) → Prop}

/-- The exchanges that must come before a submission, in this order: the proposition is still open,
it is this node's turn, the strategy wants the bundle, the bundle was downloaded, and the strategy
wants to resolve with it. -/
def Authorised (r : Resolver) (p : Proposition) (es : List (Exchange Query)) : Prop :=
  ∃ address node timeout b, sameAddress address r.node = true ∧ b.bundle = p.bundle ∧
    List.Sublist [⟨.canResolve p.id, .answer (.ok true)⟩,
      ⟨.designated p, .answer (.ok address)⟩, ⟨.shouldFetch p, .answer (.ok true)⟩,
      ⟨.download p.bundle node timeout, .answer (.ok b)⟩,
      ⟨.shouldResolve b, .answer (.ok true)⟩] es

/-! ## The course of an attempt -/

/-- How an attempt may go. `auth` says what must hold of the exchanges before a submission. -/
inductive Course (auth : List (Exchange Query) → Prop) (p : Proposition) :
    List (Exchange Query) → Reply Outcome → Prop
  /-- It never comes to a submission. -/
  | stopped {es : List (Exchange Query)} {ending : Reply Outcome}
      (hes : ∀ e ∈ es, e.question.IsGate) (he : ending ≠ .answer .resolved) :
    Course auth p es ending
  /-- The submission fails. -/
  | refused {gates tail : List (Exchange Query)} {ending : Reply Outcome}
      {reply : Reply (Answer (Query.submit p))} (hg : ∀ e ∈ gates, e.question.IsGate)
      (ht : ∀ e ∈ tail, e.question.IsGate) (ha : auth gates)
      (hr : ∀ receipt, reply ≠ .answer (.ok receipt)) (he : ending ≠ .answer .resolved) :
    Course auth p (gates ++ ⟨.submit p, reply⟩ :: tail) ending
  /-- The submission is accepted, and the mark fails. -/
  | unmarked {gates tail : List (Exchange Query)} {ending : Reply Outcome} {receipt : Receipt}
      {reply : Reply (Answer (Query.mark p.bundle))} (hg : ∀ e ∈ gates, e.question.IsGate)
      (ht : ∀ e ∈ tail, e.question.IsGate) (ha : auth gates) (hr : reply ≠ .answer (.ok ()))
      (he : ending ≠ .answer .resolved) :
    Course auth p
      (gates ++ ⟨.submit p, .answer (.ok receipt)⟩ :: ⟨.mark p.bundle, reply⟩ :: tail) ending
  /-- The bundle is marked, and the hook is the last to be asked. -/
  | marked {gates : List (Exchange Query)} {receipt : Receipt}
      {reply : Reply (Answer (Query.afterResolution p))} (hg : ∀ e ∈ gates, e.question.IsGate)
      (ha : auth gates) :
    Course auth p (gates ++ [⟨.submit p, .answer (.ok receipt)⟩,
      ⟨.mark p.bundle, .answer (.ok ())⟩, ⟨.afterResolution p, reply⟩])
      (reply.map fun _ => .resolved)

theorem Course.imp {auth' : List (Exchange Query) → Prop} {ending : Reply Outcome}
    (h : Course auth p es ending) (ha : ∀ gates, auth gates → auth' gates) :
    Course auth' p es ending := by
  cases h with
  | stopped hes he => exact .stopped hes he
  | refused hg ht h hr he => exact .refused hg ht (ha _ h) hr he
  | unmarked hg ht h hr he => exact .unmarked hg ht (ha _ h) hr he
  | marked hg h => exact .marked hg (ha _ h)

/-- Questions that change nothing may come before. -/
theorem Course.after {ending : Reply Outcome} (hes : ∀ e ∈ es₁, e.question.IsGate)
    (h : Course (fun gates => auth (es₁ ++ gates)) p es₂ ending) :
    Course auth p (es₁ ++ es₂) ending := by
  have hall : ∀ {es : List (Exchange Query)}, (∀ e ∈ es, e.question.IsGate) →
      ∀ e ∈ es₁ ++ es, e.question.IsGate := fun hes' =>
    List.forall_mem_append.mpr ⟨hes, hes'⟩
  cases h with
  | stopped hes' he => exact .stopped (hall hes') he
  | refused hg ht ha hr he =>
    rw [← List.append_assoc]
    exact .refused (hall hg) ht ha hr he
  | unmarked hg ht ha hr he =>
    rw [← List.append_assoc]
    exact .unmarked (hall hg) ht ha hr he
  | marked hg ha =>
    rw [← List.append_assoc]
    exact .marked (hall hg) ha

/-- After an attempt has failed, questions that change nothing may follow. -/
theorem Course.failed {fault : ResolutionFault} {ending : Reply Outcome}
    (h : Course auth p es₁ (.answer (.failed fault))) (hes : ∀ e ∈ es₂, e.question.IsGate)
    (he : ending ≠ .answer .resolved) : Course auth p (es₁ ++ es₂) ending := by
  generalize hf : (Reply.answer (Outcome.failed fault)) = ending' at h
  cases h with
  | stopped hes' => exact .stopped (List.forall_mem_append.mpr ⟨hes', hes⟩) he
  | refused hg ht ha hr =>
    rw [List.append_assoc, List.cons_append]
    exact .refused hg (List.forall_mem_append.mpr ⟨ht, hes⟩) ha hr he
  | unmarked hg ht ha hr =>
    rw [List.append_assoc, List.cons_append, List.cons_append]
    exact .unmarked hg (List.forall_mem_append.mpr ⟨ht, hes⟩) ha hr he
  | @marked _ _ reply => cases reply <;> cases hf

/-- A resolution as an outcome: a fault is a failure. -/
def settle : Except ResolutionFault Outcome → Outcome
  | .ok outcome => outcome
  | .error fault => .failed fault

theorem held_service {α : Type} {x : Ask Fault α} {a : α}
    (h : (service x).run.Held es (.answer (.ok a))) : x.run.Held es (.answer (.ok a)) := by
  obtain ⟨reply, h, he⟩ := held_adapt h
  rcases reply with (fault | a') | _ <;> cases he
  exact h

/-- A gate lets an attempt pass, or it stops there. -/
theorem gate_inv {α : Type} {x : Ask ResolutionFault α} {f : α → Ask ResolutionFault Outcome}
    {ending : Reply (Except ResolutionFault Outcome)} (h : (x >>= f).run.Held es ending)
    (hx : x.run.Asks IsGate)
    (hf : ∀ a es₁ es₂, x.run.Held es₁ (.answer (.ok a)) → (f a).run.Held es₂ ending →
      Course (fun gates => auth (es₁ ++ gates)) p es₂ (ending.map settle)) :
    Course auth p es (ending.map settle) := by
  obtain ⟨a, es₁, es₂, rfl, h₁, h₂⟩ | ⟨fault, h₁, rfl⟩ | ⟨h₁, rfl⟩ := Held.run_bind_inv h
  · exact .after (hx.held h₁) (hf a es₁ es₂ h₁ h₂)
  · exact .stopped (hx.held h₁) fun he => nomatch he
  · exact .stopped (hx.held h₁) fun he => nomatch he

/-- The end of a resolution is not `resolved` if it stops at a gate. -/
theorem stopped_of_nil {ending : Reply (Except ResolutionFault Outcome)}
    {outcome : Except ResolutionFault Outcome}
    (h : (Dialogue.done outcome : Dialogue Query _).Held es ending)
    (ho : settle outcome ≠ .resolved) : Course auth p es (ending.map settle) := by
  obtain ⟨rfl, rfl⟩ := h
  exact .stopped (fun e he => nomatch he) fun he => ho (Reply.answer.inj he)

/-- An answer to a question to a service that is not the service's own is a fault of it. -/
theorem held_adapt_failed {α ε ε' : Type} {x : Ask ε α} {f : ε → ε'} {ending : Reply (Except ε' α)}
    (h : (x.adapt f).run.Held es ending) (he : ∀ a, ending ≠ .answer (.ok a)) :
    ∃ reply, x.run.Held es reply ∧ ∀ a, reply ≠ .answer (.ok a) := by
  obtain ⟨reply, hreply, rfl⟩ := held_adapt h
  refine ⟨reply, hreply, fun a ha => he a ?_⟩
  rw [ha]
  rfl

/-- A commitment submits, then marks, then runs the hook, and stops at the first that fails. -/
theorem held_commit {ending : Reply (Except ResolutionFault Outcome)} (ha : auth [])
    (h : (commit p).run.Held es ending) : Course auth p es (ending.map settle) := by
  have none : ∀ e ∈ ([] : List (Exchange Query)), e.question.IsGate := fun e he => nomatch he
  have refused : ∀ {reply : Reply (Except ResolutionFault Receipt)} {ending : Reply Outcome},
      (service (Ask.submit p)).run.Held es reply → (∀ receipt, reply ≠ .answer (.ok receipt)) →
      ending ≠ .answer .resolved → Course auth p es ending := by
    intro reply ending h hr he
    obtain ⟨reply', h, hr'⟩ := held_adapt_failed h hr
    rw [held_call h]
    exact .refused none none ha hr' he
  obtain ⟨receipt, es₁, es₂, rfl, h₁, h⟩ | ⟨fault, h₁, rfl⟩ | ⟨h₁, rfl⟩ :=
    Held.run_bind_inv h
  · rw [held_call (held_service h₁)]
    have unmarked : ∀ {reply : Reply (Except ResolutionFault Unit)} {ending : Reply Outcome},
        ((Ask.mark p.bundle).adapt fun fault => ResolutionFault.storage fault.message).run.Held es₂
          reply → reply ≠ .answer (.ok ()) → ending ≠ .answer .resolved →
        Course auth p ([⟨.submit p, .answer (.ok receipt)⟩] ++ es₂) ending := by
      intro reply ending h hr he
      obtain ⟨reply', h, hr'⟩ := held_adapt_failed h fun _ => hr
      rw [held_call h]
      exact .unmarked none none ha (hr' ()) he
    obtain ⟨_, es₃, es₄, rfl, h₃, h⟩ | ⟨fault, h₃, rfl⟩ | ⟨h₃, rfl⟩ := Held.run_bind_inv h
    · obtain ⟨reply, h₃, he⟩ := held_adapt h₃
      rcases reply with (fault | _) | _ <;> cases he
      rw [held_call h₃]
      obtain ⟨hook, es₅, es₆, rfl, h₅, rfl, rfl⟩ | ⟨h₅, rfl⟩ := Held.lift_bind_inv h
      · rw [held_call h₅]
        exact Course.marked none ha
      · rw [held_call h₅]
        have hpanic : Course auth p ([] ++ [⟨.submit p, .answer (.ok receipt)⟩,
            ⟨.mark p.bundle, .answer (.ok ())⟩, ⟨.afterResolution p, .panic⟩]) .panic :=
          .marked none ha
        exact hpanic
    · exact unmarked h₃ (fun he => nomatch he) fun he => nomatch he
    · exact unmarked h₃ (fun he => nomatch he) fun he => nomatch he
  · exact refused h₁ (fun _ he => nomatch he) fun he => nomatch he
  · exact refused h₁ (fun _ he => nomatch he) fun he => nomatch he

theorem held_resolve {ending : Reply (Except ResolutionFault Outcome)}
    (h : (resolve r p).run.Held es ending) :
    Course (Authorised r p) p es (ending.map settle) := by
  refine gate_inv h (asks_adapt asks_gate) fun canResolve es₁ rest h₁ h => ?_
  cases canResolve with
  | false => exact stopped_of_nil h fun ho => nomatch ho
  | true =>
    refine gate_inv h (asks_adapt asks_gate) fun address es₂ rest h₂ h => ?_
    split at h
    · exact stopped_of_nil h fun ho => nomatch ho
    · rename_i haddress
      refine gate_inv h asks_gate fun shouldFetch es₃ rest h₃ h => ?_
      cases shouldFetch with
      | false => exact stopped_of_nil h fun ho => nomatch ho
      | true =>
        refine gate_inv h asks_fetchBundle fun b es₄ rest h₄ h => ?_
        dsimp only at h
        split at h
        · exact stopped_of_nil h fun ho => nomatch ho
        · rename_i hbundle
          refine gate_inv h asks_gate fun shouldResolve es₅ rest h₅ h => ?_
          cases shouldResolve with
          | false => exact stopped_of_nil h fun ho => nomatch ho
          | true =>
            refine held_commit ?_ h
            rw [held_call (held_service h₁), held_call (held_service h₂), held_call h₃,
              held_call h₅]
            obtain ⟨node, timeout, hmem⟩ := held_fetchBundle h₄
            refine ⟨address, node, timeout, b, by simpa using haddress, by simpa using hbundle, ?_⟩
            refine .cons_cons _ (.cons_cons _ (.cons_cons _ ?_))
            exact (List.singleton_sublist.mpr hmem).append (List.Sublist.refl [_])

/-- What an attempt does after a fault: it opens a backoff window. -/
def backOff (p : Proposition) (fault : ResolutionFault) : Dialogue Query Outcome := do
  Ask.remember p.id (← Ask.retryTimeout)
  return .failed fault

theorem held_backOff {fault : ResolutionFault} {ending : Reply Outcome}
    (h : (backOff p fault).Held es ending) :
    (∀ e ∈ es, e.question.IsGate) ∧ ending ≠ .answer .resolved := by
  have hasks : (backOff p fault).Asks IsGate :=
    Asks.bind asks_gate fun _ => Asks.bind asks_gate fun _ => trivial
  refine ⟨hasks.held h, ?_⟩
  rintro rfl
  obtain ⟨ttl, es₁, es₂, rfl, -, h₂⟩ | ⟨-, he⟩ := Held.bind_inv h
  · obtain ⟨_, es₃, es₄, rfl, -, -, he⟩ | ⟨-, he⟩ := Held.bind_inv h₂ <;> cases he
  · cases he

theorem held_attempt {ending : Reply Outcome} (h : (attempt r p).Held es ending) :
    Course (Authorised r p) p es ending := by
  have hgate : ∀ {es : List (Exchange Query)} {reply : Reply Bool},
      (Ask.isSuppressed p.id).Held es reply → ∀ e ∈ es, e.question.IsGate := fun h =>
    Asks.held (d := Ask.isSuppressed p.id) asks_gate h
  have hauth : ∀ {es gates : List (Exchange Query)}, Authorised r p gates →
      Authorised r p (es ++ gates) := by
    rintro es gates ⟨address, node, timeout, b, ha, hb, hs⟩
    exact ⟨address, node, timeout, b, ha, hb, hs.trans (List.sublist_append_right es gates)⟩
  obtain ⟨suppressed, es₁, es₂, rfl, h₁, h₂⟩ | ⟨h₁, rfl⟩ := Held.bind_inv h
  · refine .after (hgate h₁) ?_
    cases suppressed with
    | true =>
      obtain ⟨rfl, rfl⟩ := h₂
      exact .stopped (fun e he => nomatch he) fun he => nomatch he
    | false =>
      refine Course.imp (?_ : Course (Authorised r p) p es₂ ending) fun _ => hauth
      obtain ⟨result, es₃, es₄, rfl, h₃, h₄⟩ | ⟨h₃, rfl⟩ := Held.bind_inv h₂
      · cases result with
        | ok outcome =>
          obtain ⟨rfl, rfl⟩ := h₄
          rw [List.append_nil]
          exact held_resolve h₃
        | error fault =>
          obtain ⟨hes, he⟩ := held_backOff h₄
          exact (held_resolve h₃).failed hes he
      · exact held_resolve h₃
  · exact .stopped (hgate h₁) fun he => nomatch he

theorem settles_resolve : (resolve r p).run.Settles Sane := by
  refine Settles.run_bind (settles_adapt (settles_call id)) fun canResolve => ?_
  cases canResolve with
  | false => trivial
  | true =>
    refine Settles.run_bind (settles_adapt (settles_call id)) fun address => ?_
    split
    · trivial
    · refine Settles.run_bind (settles_call id) fun shouldFetch => ?_
      cases shouldFetch with
      | false => trivial
      | true =>
        refine Settles.run_bind settles_fetchBundle fun b => ?_
        dsimp only
        split
        · trivial
        · refine Settles.run_bind (settles_call id) fun shouldResolve => ?_
          cases shouldResolve with
          | false => trivial
          | true =>
            refine Settles.run_bind (settles_adapt (settles_call id)) fun receipt => ?_
            refine Settles.run_bind (settles_adapt (settles_call id)) fun _ => ?_
            exact Settles.run_bind (Settles.bind (settles_call id) fun _ => trivial)
              fun _ => trivial

theorem settles_attempt : (attempt r p).Settles Sane := by
  refine Settles.bind (settles_call id) fun suppressed => ?_
  cases suppressed with
  | true => trivial
  | false =>
    refine Settles.bind settles_resolve fun result => ?_
    cases result with
    | ok outcome => trivial
    | error fault =>
      exact Settles.bind (settles_call id) fun _ => Settles.bind (settles_call id) fun _ => trivial

end Resolver

end Sheltering
