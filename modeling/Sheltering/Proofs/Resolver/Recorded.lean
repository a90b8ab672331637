import Sheltering.Proofs.Backoff
import Sheltering.Proofs.Dialogue.Beats
import Sheltering.Proofs.Resolver.Ledger
import Sheltering.Proofs.Resolver.Scope
import Sheltering.Proofs.Resolver.Session
import Sheltering.Resolver.Script

/-!
# Propositions that are recorded

A submission that is accepted closes its proposition for the node, whatever becomes of the mark
after it.

* `Resolver.accepted`, `Resolver.marked`: the submissions and the marks that succeed.
* `Resolver.goes_ids`: a batch asks about no proposition that was recorded before it.
* `Resolver.leaves_recorded`: once a submission is accepted, no later batch asks about its
  proposition, and none marks its bundle but for another proposition.
* `Resolver.mark_lost`: so a mark that fails after its submission is not made up for.
-/

namespace Sheltering

open Dialogue (Asks Exchange Goes Held asks_call goes_beats)

namespace Query

/-- The id of the proposition that a question is about. -/
def id? : Query → Option String
  | canResolve id => some id
  | designated p => some p.id
  | submit p => some p.id
  | shouldFetch p => some p.id
  | afterResolution p => some p.id
  | isSuppressed id => some id
  | remember id _ => some id
  | _ => none

/-- The proposition of a submission that was accepted. -/
def accepted? : Exchange Query → Option Proposition
  | ⟨submit p, .answer (.ok _)⟩ => some p
  | _ => none

/-- The bundle of a mark that succeeded. -/
def marked? : Exchange Query → Option String
  | ⟨mark bundle, .answer (.ok ())⟩ => some bundle
  | _ => none

variable {p : Proposition} {q : Query} {id bundle : String} {e : Exchange Query}

theorem id?_of_isFeed (h : q.IsFeed) : q.id? = none := by
  cases q with
  | canResolve | designated | submit | shouldFetch | afterResolution | isSuppressed | remember =>
    exact h.elim
  | _ => rfl

theorem eq_of_isOf (h : q.IsOf p) (hid : q.id? = some id) : id = p.id := by
  cases q with
  | canResolve | designated | submit | shouldFetch | afterResolution | isSuppressed | remember =>
    cases hid
    simp only [IsOf, IsAbout] at h
    rw [h]
  | _ => cases hid

theorem eq_of_accepted? (h : accepted? e = some p) :
    ∃ receipt, e = ⟨submit p, .answer (.ok receipt)⟩ := by
  obtain ⟨q, r⟩ := e
  cases q with
  | submit p' =>
    rcases r with (fault | receipt) | _ <;> cases h
    exact ⟨receipt, rfl⟩
  | _ => cases h

theorem eq_of_marked? (h : marked? e = some bundle) : e = ⟨mark bundle, .answer (.ok ())⟩ := by
  obtain ⟨q, r⟩ := e
  cases q with
  | mark bundle' =>
    rcases r with (fault | _) | _ <;> cases h
    rfl
  | _ => cases h

end Query

/-! ## What is recorded -/

namespace Ledger

variable {node : String} {es es' : List ResolvedEvent} {q : Query}

/-- What is recorded stays so, and if all that was recorded was resolved by the node, all is. -/
structure Grows (node : String) (es es' : List ResolvedEvent) : Prop where
  ids : ∀ id ∈ es.map (·.id), id ∈ es'.map (·.id)
  own : (∀ e ∈ es, sameAddress e.resolver node = true) →
    ∀ e ∈ es', sameAddress e.resolver node = true

theorem grows_refl (es : List ResolvedEvent) : Grows node es es :=
  ⟨fun _ => id, id⟩

theorem Grows.trans {es₁ es₂ es₃ : List ResolvedEvent} (h₁ : Grows node es₁ es₂)
    (h₂ : Grows node es₂ es₃) : Grows node es₁ es₃ :=
  ⟨fun id hid => h₂.ids id (h₁.ids id hid), fun h => h₂.own (h₁.own h)⟩

theorem grows_of_records {r : Reply (Answer q)} (h : records node q es r es') :
    Grows node es es' := by
  cases q with
  | submit p =>
    obtain ⟨e, -, he, rfl⟩ | ⟨rfl, -⟩ := h
    · refine ⟨fun id hid => ?_, fun hes => ?_⟩
      · rw [List.map_append]
        exact List.mem_append_left _ hid
      · exact List.forall_mem_append.mpr ⟨hes, List.forall_mem_singleton.mpr he⟩
    · exact grows_refl _
  | resolvedEvents =>
    obtain ⟨rfl, -⟩ := h
    exact grows_refl _
  | _ =>
    obtain rfl := h
    exact grows_refl _

/-- A submission that is accepted is recorded. -/
theorem mem_of_records {p : Proposition} {receipt : Receipt}
    (h : records node (.submit p) es (.answer (.ok receipt)) es') : p.id ∈ es'.map (·.id) := by
  obtain ⟨e, he, -, rfl⟩ | ⟨-, hr⟩ := h
  · rw [List.map_append]
    exact List.mem_append_right _ (List.mem_singleton.mpr he.symm)
  · exact absurd rfl (hr receipt)

end Ledger

namespace Resolver

open Ledger
open Query (IsOf accepted? marked?)

/-- The propositions whose submissions were accepted. -/
def accepted (es : List (Exchange Query)) : List Proposition := es.filterMap accepted?

/-- The bundles that were marked. -/
def marked (es : List (Exchange Query)) : List String := es.filterMap marked?

variable {r : Resolver} {p : Proposition} {mode : Mode} {es es' : List ResolvedEvent}
  {bs : List (Beat Query (List ResolvedEvent))} {xs : List (Exchange Query)}

theorem mem_accepted : p ∈ accepted xs ↔ ∃ receipt, ⟨.submit p, .answer (.ok receipt)⟩ ∈ xs := by
  rw [accepted, List.mem_filterMap]
  constructor
  · rintro ⟨e, he, ha⟩
    obtain ⟨receipt, rfl⟩ := Query.eq_of_accepted? ha
    exact ⟨receipt, he⟩
  · exact fun ⟨receipt, h⟩ => ⟨_, h, rfl⟩

theorem mem_marked {bundle : String} :
    bundle ∈ marked xs ↔ ⟨.mark bundle, .answer (.ok ())⟩ ∈ xs := by
  rw [marked, List.mem_filterMap]
  constructor
  · rintro ⟨e, he, hm⟩
    exact Query.eq_of_marked? hm ▸ he
  · exact fun h => ⟨_, h, rfl⟩

/-! ## One batch -/

/-- A batch asks about no proposition that was recorded before it. -/
theorem goes_ids {ending : Reply (Except Fault BatchReport)}
    (h : (batch r mode).run.Goes (records r.node) es bs ending es')
    (hes : ∀ e ∈ es, sameAddress e.resolver r.node = true) :
    ∀ x ∈ bs.map (·.exchange), ∀ id, x.question.id? = some id → id ∉ es.map (·.id) := by
  have hfeeds : ∀ {bs : List (Beat Query (List ResolvedEvent))} {es'} {ending},
      (ongoing r.node).run.Goes (records r.node) es bs ending es' →
      ∀ x ∈ bs.map (·.exchange), ∀ id, x.question.id? = some id → id ∉ es.map (·.id) := by
    intro bs es' ending h x hx id hid
    rw [Query.id?_of_isFeed (asks_ongoing_feed.held h.held x hx)] at hid
    cases hid
  obtain ⟨ps, bs₁, es₁, bs₂, rfl, h₁, h₂⟩ | ⟨fault, h₁, -⟩ | ⟨h₁, -⟩ := Goes.run_bind_inv h
  · obtain ⟨-, hps⟩ := (keeps_ongoing hes).goes h₁
    obtain ⟨-, hnew⟩ := hps ps rfl
    have hrest : Asks (fun q => (∃ p ∈ ps, q.IsOf p) ∨ q = .sweep) (ExceptT.run (do
        let outcomes ← ExceptT.lift (attempts r mode ps)
        let _ ← ExceptT.lift Ask.sweep
        pure (BatchReport.ofOutcomes ps.length outcomes) : Ask Fault BatchReport)) := by
      refine Asks.run_bind ((asks_attempts.mono fun _ => .inl).bind fun _ => trivial) fun _ => ?_
      exact Asks.run_bind ((asks_call (.inr rfl)).bind fun _ => trivial) fun _ => trivial
    rw [List.map_append]
    refine List.forall_mem_append.mpr ⟨hfeeds h₁, fun x hx id hid => ?_⟩
    obtain ⟨p, hp, hof⟩ | hsweep := hrest.held h₂.held x hx
    · exact Query.eq_of_isOf hof hid ▸ hnew p hp
    · rw [hsweep] at hid
      cases hid
  · exact hfeeds h₁
  · exact hfeeds h₁

/-- What a batch marks, it marks for a submission that was accepted. -/
theorem accepted_of_marked {chapters : List Chapter} {bundle : String} (h : Told r chapters xs)
    (hm : bundle ∈ marked xs) : ∃ p ∈ accepted xs, p.bundle = bundle := by
  obtain ⟨rfl, hlawful⟩ := h
  obtain ⟨c, hc, hx⟩ := List.mem_flatMap.mp (mem_marked.mp hm)
  cases c with
  | attempt p xs ending =>
    obtain ⟨before, after, hsplit⟩ := List.append_of_mem hx
    obtain ⟨rfl, earlier, receipt, rfl⟩ := (hlawful _ hc).2.mark before bundle _ after hsplit
    refine ⟨p, mem_accepted.mpr ⟨receipt, List.mem_flatMap.mpr ⟨_, hc, ?_⟩⟩, rfl⟩
    rw [hsplit]
    exact List.mem_append_left _ (List.mem_append_right _ (List.mem_singleton.mpr rfl))
  | other xs => exact nomatch hlawful _ hc _ hx

/-! ## Sessions of batches -/

/-- Later exchanges are about none of the propositions accepted before, and where they mark the
bundle of one, they do so for another proposition. -/
def Leaves (earlier later : List (Exchange Query)) : Prop :=
  ∀ p ∈ accepted earlier, (∀ x ∈ later, x.question.id? ≠ some p.id) ∧
    (p.bundle ∈ marked later → ∃ p' ∈ accepted later, p'.id ≠ p.id ∧ p'.bundle = p.bundle)

theorem leaves_of_ids {chapters : List Chapter} {earlier later : List (Exchange Query)}
    (htold : Told r chapters later) (hin : ∀ p ∈ accepted earlier, p.id ∈ es.map (·.id))
    (hout : ∀ x ∈ later, ∀ id, x.question.id? = some id → id ∉ es.map (·.id)) :
    Leaves earlier later := by
  intro p hp
  have hnot : ∀ x ∈ later, x.question.id? ≠ some p.id := fun x hx hid => hout x hx _ hid (hin p hp)
  refine ⟨hnot, fun hm => ?_⟩
  obtain ⟨p', hp', hbundle⟩ := accepted_of_marked htold hm
  obtain ⟨receipt, hx⟩ := mem_accepted.mp hp'
  exact ⟨p', hp', fun he => hnot _ hx (congrArg some he), hbundle⟩

/-- A batch is told by chapters, what it has accepted is recorded after it, and it asks about
nothing that was recorded before it. -/
theorem goes_respond_batch {reply : Reply ResolverReply}
    (h : (respond r (.batch mode)).Goes (records r.node) es bs reply es')
    (hes : ∀ e ∈ es, sameAddress e.resolver r.node = true) :
    (∃ chapters, Told r chapters (bs.map (·.exchange)) ∧
      Episode.Reported chapters reply (.batch mode)) ∧
    Grows r.node es es' ∧ (∀ p ∈ accepted (bs.map (·.exchange)), p.id ∈ es'.map (·.id)) ∧
    ∀ x ∈ bs.map (·.exchange), ∀ id, x.question.id? = some id → id ∉ es.map (·.id) := by
  obtain ⟨hgrows, hsteps⟩ := h.path.between grows_refl Grows.trans fun _ _ _ _ => grows_of_records
  refine ⟨held_respond h.held, hgrows, fun p hp => ?_, ?_⟩
  · obtain ⟨receipt, hx⟩ := mem_accepted.mp hp
    obtain ⟨b, hb, hbx⟩ := List.mem_map.mp hx
    obtain ⟨before, -, hafter, hc⟩ := hsteps b hb
    rw [hbx] at hc
    exact hafter.ids _ (mem_of_records hc)
  · obtain ⟨report, bs₁, es₁, bs₂, rfl, h₁, rfl, -, -⟩ | ⟨h₁, -⟩ := Goes.bind_inv h
    · rw [List.append_nil]
      exact goes_ids h₁ hes
    · exact goes_ids h₁ hes

/-- Sessions of batches, with what was recorded before. -/
theorem goes_batches {modes : List Mode} {ending : Reply (List (Reply ResolverReply))}
    (h : (session r (modes.map .batch)).Goes (records r.node) es bs ending es')
    (hes : ∀ e ∈ es, sameAddress e.resolver r.node = true) :
    ∃ episodes : List Episode, episodes.map (·.call) = modes.map .batch ∧
      ending = .answer (episodes.map (·.reply)) ∧
      bs.map (·.exchange) = episodes.flatMap Episode.exchanges ∧ (∀ e ∈ episodes, e.Lawful r) ∧
      (episodes.Pairwise fun earlier later => Leaves earlier.exchanges later.exchanges) ∧
      ∀ e ∈ episodes, ∀ x ∈ e.exchanges, ∀ id, x.question.id? = some id →
        id ∉ es.map (·.id) := by
  induction modes generalizing es bs ending with
  | nil =>
    obtain ⟨rfl, rfl, rfl⟩ := h
    exact ⟨[], rfl, rfl, rfl, List.forall_mem_nil _, .nil, List.forall_mem_nil _⟩
  | cons mode rest ih =>
    obtain ⟨reply, bs₁, es₁, bs₂, endings, rfl, hcall, hlater, rfl⟩ := Goes.settled_cons_inv h
    obtain ⟨⟨chapters, ⟨hxs₁, htold⟩, hreply⟩, hgrows, hin, hout⟩ := goes_respond_batch hcall hes
    obtain ⟨episodes, hcalls, rfl, hxs, hlawful, hpairs, hids⟩ := ih hlater (hgrows.own hes)
    rw [hxs₁] at hin hout
    refine ⟨⟨.batch mode, chapters, reply⟩ :: episodes, ?_, rfl, ?_,
      List.forall_mem_cons.mpr ⟨⟨htold, hreply⟩, hlawful⟩, .cons (fun e he => ?_) hpairs,
      List.forall_mem_cons.mpr ⟨hout, fun e he x hx id hid hmem => ?_⟩⟩
    · rw [List.map_cons, List.map_cons, hcalls]
    · rw [List.map_append, hxs₁, hxs, List.flatMap_cons]
      rfl
    · exact leaves_of_ids ⟨rfl, (hlawful e he).chapters⟩ hin (hids e he)
    · exact hids e he x hx id hid (hgrows.ids id hmem)

/-- Against a ledger that records what it accepts, a resolver leaves a proposition alone in all
batches after the one in which its submission was accepted. If its bundle is marked there, then for
another proposition. -/
theorem leaves_recorded {modes : List Mode} {ending : Reply (List (Reply ResolverReply))}
    (h : (session r (modes.map .batch)).Goes (records r.node) es bs ending es')
    (hes : ∀ e ∈ es, sameAddress e.resolver r.node = true) :
    ∃ episodes : List Episode, episodes.map (·.call) = modes.map .batch ∧
      ending = .answer (episodes.map (·.reply)) ∧
      bs.map (·.exchange) = episodes.flatMap Episode.exchanges ∧ (∀ e ∈ episodes, e.Lawful r) ∧
      episodes.Pairwise fun earlier later => Leaves earlier.exchanges later.exchanges := by
  obtain ⟨episodes, hcalls, hending, hxs, hlawful, hpairs, -⟩ := goes_batches h hes
  exact ⟨episodes, hcalls, hending, hxs, hlawful, hpairs⟩

/-! ## A mark that fails -/

namespace Unmarked

/-- A challenge with free slots. -/
def challenge : Proposition := ⟨"challenge", "0xB", "bundle", 2, ⟨1, 1⟩⟩

def resolver : Resolver := { subject := .challenge, node := "0xA" }

/-- The challenge is open, and its holder has the bundle. -/
def script : Script := { feeds := ⟨[challenge], [], []⟩, servings := [("0xB", .asRequested)] }

/-- Every mark fails, and all else succeeds. -/
def world : Dialogue.Surroundings Query (List ResolvedEvent) := fun q es =>
  match q with
  | .mark _ => (.answer (.error (.database "disk full")), es)
  | q =>
    let (r, script) := { script with feeds := ⟨[challenge], es, []⟩ }.reply "0xA" q
    (r, script.feeds.resolved)

theorem world_conduct (q : Query) (es : List ResolvedEvent) :
    records resolver.node q es (world q es).1 (world q es).2 := by
  cases q with
  | submit p =>
    have hown : sameAddress "0xA" "0xA" = true := by decide
    exact .inl ⟨⟨p.id, "0xA", p.position.block⟩, rfl, hown, rfl⟩
  | resolvedEvents =>
    refine ⟨rfl, fun shown h => ?_⟩
    cases h
    exact fun e he => he
  | _ => rfl

end Unmarked

open Unmarked in
/-- The challenge is submitted, and its bundle is never marked. -/
theorem leaves_recorded_unmarked :
    ∃ episodes : List Episode, episodes.map (·.call) = [.batch .all, .batch .all] ∧
      accepted (episodes.flatMap Episode.exchanges) = [challenge] ∧
      marked (episodes.flatMap Episode.exchanges) = [] ∧
      episodes.Pairwise fun earlier later => Leaves earlier.exchanges later.exchanges := by
  have h := goes_beats world_conduct (session resolver (([.all, .all] : List Mode).map .batch)) []
  obtain ⟨episodes, hcalls, -, hxs, -, hpairs⟩ := leaves_recorded h (List.forall_mem_nil _)
  refine ⟨episodes, hcalls, ?_, ?_, hpairs⟩
  · rw [← hxs]
    decide +kernel
  · rw [← hxs]
    decide +kernel

namespace Unmarked

/-- The stage on which marks fail. -/
def stage : Stage where
  script := { script with mishaps := [("mark", .fault (.database "disk full") (.strategy ""))] }
  now := ⟨1700000000, 0⟩

/-- A batch in which the mark fails. -/
def first : Dialogue.Run Query Stage (Except Fault BatchReport) :=
  (batch resolver .all).run.run (Stage.surroundings "0xA") stage

/-- A minute later marks do not fail any more. -/
def repaired : Stage where
  script := { first.state.script with mishaps := [] }
  backoff := first.state.backoff
  now := ⟨1700000060, 0⟩

/-- The batch after that. -/
def second : Dialogue.Run Query Stage (Except Fault BatchReport) :=
  (batch resolver .all).run.run (Stage.surroundings "0xA") repaired

end Unmarked

open Unmarked in
/-- The submission is accepted and the mark fails. In the batch after the backoff window nothing
fails, and the bundle is not marked. -/
theorem mark_lost :
    accepted first.exchanges = [challenge] ∧ marked first.exchanges = [] ∧
    ¬ repaired.backoff.Open challenge.id repaired.now ∧
    challenge ∈ repaired.script.feeds.opened ∧ repaired.script.feeds.timedOut = [] ∧
    repaired.script.mishaps = [] ∧ second.ending.map (·.toOption) = .answer (some ⟨0, 0, 0, 0, 0⟩) ∧
    marked second.exchanges = [] := by
  decide +kernel

end Resolver

end Sheltering
