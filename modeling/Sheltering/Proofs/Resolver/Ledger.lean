import Sheltering.Proofs.Reconcile
import Sheltering.Proofs.Resolver.Gates
import Sheltering.Resolver.Batch

/-!
# A resolver and what the ledger records of it

* `Ledger.records`: a ledger that records the submissions it accepts and shows them in its feed,
  whatever else it and all others do.
* `Ledger.May`: a submission may only be of a proposition that the node has not resolved.
* `Resolver.keeps_batch`: a batch submits no proposition that the ledger has recorded, and none
  twice.
-/

namespace Sheltering

open Dialogue (Asks Keeps asks_call keeps_call)

namespace Ledger

/-- A ledger that records the submissions of a node. It may fail, also after it accepted one, and
its feed of resolutions, when it answers, has what it recorded. All other questions may be answered
in any way. -/
def records (node : String) : Conduct Query (List ResolvedEvent)
  | .submit p, es, r, es' =>
    (∃ e : ResolvedEvent, e.id = p.id ∧ sameAddress e.resolver node = true ∧ es' = es ++ [e]) ∨
      (es' = es ∧ ∀ receipt, r ≠ .answer (.ok receipt))
  | .resolvedEvents _, es, r, es' =>
    es' = es ∧ ∀ shown, r = .answer (.ok shown) → ∀ e ∈ es, e ∈ shown
  | _, es, _, es' => es' = es

/-- A submission may be of a proposition that is not recorded yet, and all else may be asked. -/
def May : Query → List ResolvedEvent → Prop
  | .submit p, es => p.id ∉ es.map (·.id)
  | _, _ => True

/-- The question is not a submission. -/
def IsQuiet : Query → Prop
  | .submit _ => False
  | _ => True

theorem isQuiet_of_isGate {q : Query} (h : q.IsGate) : IsQuiet q := by
  cases q with
  | submit => cases h
  | _ => trivial

theorem may_of_isQuiet {q : Query} {es : List ResolvedEvent} (h : IsQuiet q) : May q es := by
  cases q with
  | submit => exact h.elim
  | _ => trivial

theorem eq_of_isQuiet {node : String} {q : Query} {es es' : List ResolvedEvent}
    {r : Reply (Answer q)} (h : IsQuiet q) (hc : records node q es r es') : es' = es := by
  cases q with
  | submit => exact h.elim
  | resolvedEvents => exact hc.1
  | _ => exact hc

end Ledger

namespace Resolver

open Ledger

variable {r : Resolver} {p : Proposition} {node : String} {es : List ResolvedEvent}

/-! ## Attempts -/

/-- Nothing is recorded beyond what was, but for resolutions of some ids. -/
def Adds (ids : List String) (es es' : List ResolvedEvent) : Prop :=
  ∀ id ∈ es'.map (·.id), id ∈ es.map (·.id) ∨ id ∈ ids

theorem keeps_commit (hp : p.id ∉ es.map (·.id)) :
    (commit p).run.Keeps (records node) May (fun _ es' => Adds [p.id] es es') es := by
  refine ⟨hp, fun reply es' hc => ?_⟩
  have hadds : Adds [p.id] es es' := by
    intro id hid
    obtain ⟨e, he, -, rfl⟩ | ⟨rfl, -⟩ := hc
    · rw [List.map_append, List.map_singleton, he, List.mem_append] at hid
      exact hid
    · exact .inl hid
  have hquiet : ∀ {α : Type} {d : Dialogue Query α}, d.Asks IsQuiet →
      d.Keeps (records node) May (fun _ es'' => Adds [p.id] es es'') es' := fun hd =>
    (hd.keeps (fun _ _ => may_of_isQuiet) fun _ _ _ _ => eq_of_isQuiet).mono
      fun _ _ he => he ▸ hadds
  rcases reply with (fault | receipt) | _
  · exact hadds
  · refine hquiet (Asks.run_bind (asks_adapt (asks_call trivial)) fun _ => ?_)
    exact Asks.run_bind (Asks.bind (asks_call trivial) fun _ => trivial) fun _ => trivial
  · trivial

theorem keeps_resolve (hp : p.id ∉ es.map (·.id)) :
    (resolve r p).run.Keeps (records node) May (fun _ es' => Adds [p.id] es es') es := by
  have hsame : Adds [p.id] es es := fun id => .inl
  have quiet : ∀ {α β : Type} {x : Ask ResolutionFault α} {f : α → Ask ResolutionFault β},
      x.run.Asks IsQuiet →
      (∀ a, (f a).run.Keeps (records node) May (fun _ es' => Adds [p.id] es es') es) →
      (x >>= f).run.Keeps (records node) May (fun _ es' => Adds [p.id] es es') es := fun hx hf =>
    hx.keeps_bind (fun _ _ => may_of_isQuiet) (fun _ _ _ _ => eq_of_isQuiet) hf fun _ => hsame
  refine quiet (asks_adapt (asks_call trivial)) fun canResolve => ?_
  cases canResolve with
  | false => exact hsame
  | true =>
    refine quiet (asks_adapt (asks_call trivial)) fun designated => ?_
    split
    · exact hsame
    · refine quiet (asks_call trivial) fun shouldFetch => ?_
      cases shouldFetch with
      | false => exact hsame
      | true =>
        refine quiet (asks_fetchBundle.mono fun _ => isQuiet_of_isGate) fun bundle => ?_
        dsimp only
        split
        · exact hsame
        · refine quiet (asks_call trivial) fun shouldResolve => ?_
          cases shouldResolve with
          | false => exact hsame
          | true => exact keeps_commit hp

theorem keeps_attempt (hp : p.id ∉ es.map (·.id)) :
    (attempt r p).Keeps (records node) May (fun _ es' => Adds [p.id] es es') es := by
  refine Keeps.bind (keeps_call trivial fun suppressed es' hc => ?_)
  obtain rfl : es' = es := hc
  cases suppressed with
  | true => exact fun id => .inl
  | false =>
    refine Keeps.bind ((keeps_resolve hp).mono fun outcome es'' hadds => ?_)
    cases outcome with
    | ok outcome => exact hadds
    | error fault =>
      refine Keeps.bind (keeps_call trivial fun ttl es₃ hc => ?_)
      obtain rfl : es₃ = es'' := hc
      refine Keeps.bind (keeps_call trivial fun _ es₄ hc => ?_)
      obtain rfl : es₄ = es₃ := hc
      exact hadds

/-- Attempts at propositions that have different ids, none of which is recorded. -/
theorem keeps_attempts {mode : Mode} {ps : List Proposition} (hps : (ps.map (·.id)).Nodup)
    (hnew : ∀ p ∈ ps, p.id ∉ es.map (·.id)) :
    (attempts r mode ps).Keeps (records node) May (fun _ _ => True) es := by
  induction ps generalizing es with
  | nil => trivial
  | cons p ps ih =>
    obtain ⟨hp, hps⟩ := List.nodup_cons.mp hps
    refine Keeps.bind ((keeps_attempt (hnew p List.mem_cons_self)).mono fun outcome es' hadds => ?_)
    split
    · trivial
    · refine Keeps.bind ((ih hps fun q hq hid => ?_).mono fun _ _ _ => trivial)
      obtain hid | hid := hadds q.id hid
      · exact hnew q (List.mem_cons_of_mem _ hq) hid
      · rw [List.mem_singleton] at hid
        exact hp (List.mem_map.mpr ⟨q, hq, hid⟩)

/-! ## Batches -/

theorem keeps_feeds : feeds.run.Keeps (records node) May (fun reply es' => es' = es ∧
    ∀ feeds, reply = .ok feeds → ∀ e ∈ es, e ∈ feeds.resolved) es := by
  have quiet : ∀ {α : Type} {x : Ask Fault α} {f : α → Ask Fault Feeds}, x.run.Asks IsQuiet →
      (∀ a, (f a).run.Keeps (records node) May (fun reply es' => es' = es ∧
        ∀ feeds, reply = .ok feeds → ∀ e ∈ es, e ∈ feeds.resolved) es) →
      (x >>= f).run.Keeps (records node) May (fun reply es' => es' = es ∧
        ∀ feeds, reply = .ok feeds → ∀ e ∈ es, e ∈ feeds.resolved) es := fun hx hf =>
    hx.keeps_bind (fun _ _ => may_of_isQuiet) (fun _ _ _ _ => eq_of_isQuiet) hf
      fun _ => ⟨rfl, fun _ h => nomatch h⟩
  refine quiet (asks_call trivial) fun window => ?_
  refine quiet (asks_call trivial) fun since => ?_
  refine quiet (asks_call trivial) fun opened => ?_
  refine Keeps.bind (keeps_call trivial fun reply es' ⟨hes, hshown⟩ => ?_)
  subst hes
  cases reply with
  | error fault => exact ⟨rfl, fun _ h => nomatch h⟩
  | ok resolved =>
    refine quiet (asks_call trivial) fun timedOut => ⟨rfl, fun feeds h => ?_⟩
    cases h
    exact hshown resolved rfl

/-- The open propositions have different ids, and none is recorded. -/
theorem keeps_ongoing {here : String} (hes : ∀ e ∈ es, sameAddress e.resolver here = true) :
    (ongoing here).run.Keeps (records node) May (fun reply es' => es' = es ∧
      ∀ ps, reply = .ok ps → (ps.map (·.id)).Nodup ∧ ∀ p ∈ ps, p.id ∉ es.map (·.id)) es := by
  refine Keeps.bind (keeps_feeds.mono fun reply es' ⟨hes', hshown⟩ => ?_)
  subst hes'
  cases reply with
  | error fault => exact ⟨rfl, fun _ h => nomatch h⟩
  | ok feeds =>
    refine ⟨rfl, fun ps h => ?_⟩
    cases h
    refine ⟨nodup_ids_reconcile feeds here, fun p hp hid => ?_⟩
    obtain ⟨e, he, hid⟩ := List.mem_map.mp hid
    have hnot := (isOpen_of_mem_reconcile hp).notResolvedHere e (hshown feeds rfl e he) hid
    rw [hes e he] at hnot
    cases hnot

/-- A batch submits no proposition that is recorded, and none twice. -/
theorem keeps_batch {mode : Mode} (hes : ∀ e ∈ es, sameAddress e.resolver r.node = true) :
    (batch r mode).run.Keeps (records node) May (fun _ _ => True) es := by
  refine Keeps.bind ((keeps_ongoing hes).mono fun reply es' ⟨hes', hopen⟩ => ?_)
  subst hes'
  cases reply with
  | error fault => trivial
  | ok ps =>
    obtain ⟨hnodup, hnew⟩ := hopen ps rfl
    refine Keeps.bind (Keeps.bind ((keeps_attempts hnodup hnew).mono fun outcomes es' _ => ?_))
    refine Keeps.bind (Keeps.bind (keeps_call trivial fun swept es'' _ => ?_))
    trivial

end Resolver

end Sheltering
