import Sheltering.Proofs.Resolver.Course
import Sheltering.Resolver.Batch

/-!
# What an attempt is about

* `Query.IsAbout`: a question that belongs to the resolution of a proposition.
* `Resolver.asks_resolve`: a resolution asks nothing else.
* `Resolver.asks_attempt`, `Resolver.asks_attempts`: an attempt asks the memory besides, and only
  about its own proposition.
* `Resolver.yields_resolve`: without a fault a resolution ends neither with a failure nor with a skip
  because of one.
-/

namespace Sheltering

open Dialogue (Asks Yields asks_call)

namespace Query

/-- The question belongs to the resolution of a proposition. -/
def IsAbout (p : Proposition) : Query → Prop
  | canResolve id => id = p.id
  | designated p' => p' = p
  | shouldFetch p' => p' = p
  | shouldResolve b => b.bundle = p.bundle
  | submit p' => p' = p
  | mark bundle => bundle = p.bundle
  | afterResolution p' => p' = p
  | q => q.IsSearch p.bundle

/-- The question belongs to an attempt at a proposition. -/
def IsOf (p : Proposition) : Query → Prop
  | isSuppressed id => id = p.id
  | remember id _ => id = p.id
  | retryTimeout => True
  | q => q.IsAbout p

variable {p : Proposition} {q : Query}

theorem isAbout_of_isSearch (h : q.IsSearch p.bundle) : q.IsAbout p := by
  cases q with
  | download | holders | uploader | pick => exact h
  | _ => exact h.elim

theorem isOf_of_isAbout (h : q.IsAbout p) : q.IsOf p := by
  cases q with
  | isSuppressed | remember => exact h.elim
  | retryTimeout => trivial
  | _ => exact h

end Query

namespace Resolver

open Query (IsAbout IsOf isAbout_of_isSearch isOf_of_isAbout)

variable {r : Resolver} {p : Proposition}

/-- What a resolution asks passes a test if its search does, and so does all that belongs to it and
is not left to chance. -/
theorem asks_resolve_of {test : Query → Prop} (search : (fetchBundle r p).run.Asks test)
    (gate : ∀ q, q.IsAbout p → (∀ n, q ≠ .pick n) → test q) : (resolve r p).run.Asks test := by
  refine Asks.run_bind (asks_adapt (asks_call (gate _ rfl nofun))) fun canResolve => ?_
  cases canResolve with
  | false => trivial
  | true =>
    refine Asks.run_bind (asks_adapt (asks_call (gate _ rfl nofun))) fun address => ?_
    split
    · trivial
    · refine Asks.run_bind (asks_call (gate _ rfl nofun)) fun shouldFetch => ?_
      cases shouldFetch with
      | false => trivial
      | true =>
        refine Asks.run_bind search fun b => ?_
        dsimp only
        split
        · trivial
        · rename_i hb
          have hbundle : b.bundle = p.bundle := Decidable.not_not.mp hb
          refine Asks.run_bind (asks_call (gate _ hbundle nofun)) fun shouldResolve => ?_
          cases shouldResolve with
          | false => trivial
          | true =>
            refine Asks.run_bind (asks_adapt (asks_call (gate _ rfl nofun))) fun receipt => ?_
            refine Asks.run_bind (asks_adapt (asks_call (gate _ rfl nofun))) fun _ => ?_
            exact Asks.run_bind (Asks.bind (asks_call (gate _ rfl nofun)) fun _ => trivial)
              fun _ => trivial

/-- A resolution asks only what belongs to it. -/
theorem asks_resolve : (resolve r p).run.Asks (IsAbout p) :=
  asks_resolve_of (asks_search.mono fun _ => isAbout_of_isSearch) fun _ h _ => h

/-- What an attempt asks passes a test if its resolution does, and so do its questions to the memory
and to the strategy for the retry timeout. -/
theorem asks_attempt_of {test : Query → Prop} (resolution : (resolve r p).run.Asks test)
    (memory : ∀ q, q.IsOf p → (∀ n, q ≠ .pick n) → test q) : (attempt r p).Asks test := by
  refine Asks.bind (asks_call (memory _ rfl nofun)) fun suppressed => ?_
  cases suppressed with
  | true => trivial
  | false =>
    refine Asks.bind resolution fun result => ?_
    cases result with
    | ok outcome => trivial
    | error fault =>
      exact Asks.bind (asks_call (memory _ trivial nofun)) fun _ =>
        Asks.bind (asks_call (memory _ rfl nofun)) fun _ => trivial

/-- An attempt asks only what belongs to it. -/
theorem asks_attempt : (attempt r p).Asks (IsOf p) :=
  asks_attempt_of (asks_resolve.mono fun _ => isOf_of_isAbout) fun _ h _ => h

/-- Attempts ask only what belongs to one of their propositions. -/
theorem asks_attempts {mode : Mode} {ps : List Proposition} :
    (attempts r mode ps).Asks fun q => ∃ p ∈ ps, q.IsOf p := by
  induction ps with
  | nil => trivial
  | cons p rest ih =>
    refine Asks.bind (asks_attempt.mono fun q hq => ⟨p, List.mem_cons_self, hq⟩) fun outcome => ?_
    split
    · trivial
    · refine Asks.bind (ih.mono ?_) fun _ => trivial
      rintro q ⟨p', hp', hq⟩
      exact ⟨p', List.mem_cons_of_mem _ hp', hq⟩

/-- What a resolution ends with if it ends without a fault: no failure, and no skip because of one.
-/
def Unfailed : Except ResolutionFault Outcome → Prop
  | .ok outcome => outcome ≠ .skipped .recentlyFailed ∧ ∀ fault, outcome ≠ .failed fault
  | .error _ => True

theorem yields_resolve : (resolve r p).run.Yields Unfailed := by
  have hfault : ∀ fault, Unfailed (.error fault) := fun _ => trivial
  refine Yields.run_bind hfault fun canResolve => ?_
  cases canResolve with
  | false => exact ⟨nofun, nofun⟩
  | true =>
    refine Yields.run_bind hfault fun address => ?_
    split
    · exact ⟨nofun, nofun⟩
    · refine Yields.run_bind hfault fun shouldFetch => ?_
      cases shouldFetch with
      | false => exact ⟨nofun, nofun⟩
      | true =>
        refine Yields.run_bind hfault fun b => ?_
        dsimp only
        split
        · trivial
        · refine Yields.run_bind hfault fun shouldResolve => ?_
          cases shouldResolve with
          | false => exact ⟨nofun, nofun⟩
          | true =>
            refine Yields.run_bind hfault fun receipt => ?_
            refine Yields.run_bind hfault fun _ => ?_
            exact Yields.run_bind hfault fun _ => ⟨nofun, nofun⟩

end Resolver

end Sheltering
