import Sheltering.Proofs.Dialogue.Held
import Sheltering.Resolver.Attempt

/-!
# Questions before a submission

* `Query.commitment?`: a submission, a mark, or the hook after a resolution; `Query.IsGate`: any
  other question.
* `Query.IsFeed`: a question for the feeds of the ledger; `Query.IsSearch`: one in search of a bundle.
* `Query.Sane`: an exchange without a panic, in which a number that is picked is in range.
* `Resolver.asks_ongoing_feed`: the open propositions are found out by questions for the feeds only.
* `Resolver.asks_search`, `Resolver.settles_fetchBundle`: a download asks search questions only, and
  ends if they are sane.
* `Resolver.held_fetchBundle`: a bundle that is had was downloaded.
-/

namespace Sheltering

open Dialogue (Asks Exchange Held Settles asks_call held_call settles_call)

namespace Query

/-- What is for good. -/
inductive Commitment where
  | submission
  | mark
  /-- The hook after a resolution. -/
  | hook
deriving DecidableEq

/-- The commitment that a question asks for. -/
def commitment? : Query → Option Commitment
  | submit _ => some .submission
  | mark _ => some .mark
  | afterResolution _ => some .hook
  | _ => none

/-- The question commits to nothing. -/
def IsGate (q : Query) : Prop := q.commitment? = none

/-- The question is asked for the feeds of the ledger. -/
def IsFeed : Query → Prop
  | duration => True
  | earliestBlock _ => True
  | openedEvents _ => True
  | resolvedEvents _ => True
  | timedOutEvents _ => True
  | _ => False

/-- The question is asked in search of a bundle. -/
def IsSearch (bundle : String) : Query → Prop
  | download bundle' _ _ => bundle' = bundle
  | holders bundle' => bundle' = bundle
  | uploader bundle' => bundle' = bundle
  | pick _ => True
  | _ => False

theorem isGate_of_isFeed {q : Query} (h : q.IsFeed) : q.IsGate := by
  cases q with
  | submit | mark | afterResolution => exact h.elim
  | _ => rfl

theorem isGate_of_isSearch {bundle : String} {q : Query} (h : IsSearch bundle q) : q.IsGate := by
  cases q with
  | submit | mark | afterResolution => exact h.elim
  | _ => rfl

/-- There was an answer, and a number that was picked is in range. -/
def Sane : Exchange Query → Prop
  | ⟨pick n, .answer i⟩ => Nat.lt i n
  | ⟨_, .answer _⟩ => True
  | ⟨_, .panic⟩ => False

end Query

namespace Resolver

open Query (IsFeed IsGate IsSearch Sane isGate_of_isSearch)

variable {r : Resolver} {p : Proposition} {es : List (Exchange Query)}

theorem asks_gate {q : Query} (h : q.commitment? = none := by rfl) :
    (Dialogue.call q).Asks IsGate :=
  asks_call h

theorem asks_adapt {test : Query → Prop} {α ε ε' : Type} {x : Ask ε α} {f : ε → ε'}
    (hx : x.run.Asks test) : (x.adapt f).run.Asks test :=
  Asks.bind hx fun _ => trivial

theorem settles_adapt {α ε ε' : Type} {x : Ask ε α} {f : ε → ε'} (hx : x.run.Settles Sane) :
    (x.adapt f).run.Settles Sane :=
  Settles.bind hx fun _ => trivial

/-- An answer to a question to a service is the service's own. -/
theorem held_adapt {α ε ε' : Type} {x : Ask ε α} {f : ε → ε'} {ending : Reply (Except ε' α)}
    (h : (x.adapt f).run.Held es ending) :
    ∃ reply, x.run.Held es reply ∧ ending = reply.map (Except.mapError f) := by
  obtain ⟨a, es₁, es₂, rfl, h₁, rfl, rfl⟩ | ⟨h₁, rfl⟩ := Held.bind_inv h
  · rw [List.append_nil]
    exact ⟨_, h₁, rfl⟩
  · exact ⟨.panic, h₁, rfl⟩

theorem asks_ongoing_feed {node : String} : (ongoing node).run.Asks IsFeed := by
  refine Asks.run_bind ?_ fun _ => trivial
  refine Asks.run_bind (asks_call trivial) fun window => ?_
  refine Asks.run_bind (asks_call trivial) fun since => ?_
  refine Asks.run_bind (asks_call trivial) fun opened => ?_
  refine Asks.run_bind (asks_call trivial) fun resolved => ?_
  exact Asks.run_bind (asks_call trivial) fun timedOut => trivial

/-! ## Downloads -/

theorem asks_askDonors {bundle : String} {donors : List String} {attempts : Nat}
    {last : DownloadFault} :
    (askDonors r bundle donors attempts last).Asks (IsSearch bundle) := by
  fun_induction askDonors r bundle donors attempts last with
  | case1 => trivial
  | case2 donors attempts last hne ih =>
    refine Asks.bind (asks_call trivial) fun i => ?_
    split
    · rename_i hi
      refine Asks.bind (asks_call rfl) fun reply => ?_
      cases reply with
      | ok b => trivial
      | error fault => exact ih i hi fault
    · trivial

theorem asks_candidates {test : Query → Prop} (holders : test (.holders p.bundle))
    (uploader : test (.uploader p.bundle)) : (candidates r.subject p).run.Asks test := by
  refine Asks.run_bind (asks_call holders) fun _ => ?_
  cases r.subject with
  | challenge => exact Asks.run_bind (asks_call uploader) fun _ => trivial
  | transfer => trivial

theorem asks_search : (fetchBundle r p).run.Asks (IsSearch p.bundle) := by
  refine Asks.run_bind (Asks.bind (asks_call rfl) fun _ => trivial) fun reply => ?_
  cases reply with
  | ok b => trivial
  | error fault =>
    refine Asks.run_bind (asks_adapt (asks_candidates rfl rfl)) fun candidates => ?_
    dsimp only
    split
    · trivial
    · exact asks_askDonors

theorem asks_fetchBundle : (fetchBundle r p).run.Asks IsGate :=
  asks_search.mono fun _ => isGate_of_isSearch

/-- A number that is picked may be counted on to be in range. -/
theorem settles_pick {α : Type} {n : Nat} {f : Nat → Dialogue Query α}
    (h : ∀ i, i < n → (f i).Settles Sane) : ((Ask.pick n).bind f).Settles Sane := by
  intro reply hi
  cases reply with
  | answer i => exact h i hi
  | panic => exact hi

theorem settles_askDonors {bundle : String} {donors : List String} {attempts : Nat}
    {last : DownloadFault} : (askDonors r bundle donors attempts last).Settles Sane := by
  fun_induction askDonors r bundle donors attempts last with
  | case1 => trivial
  | case2 donors attempts last hne ih =>
    refine settles_pick fun i hi => ?_
    rw [dif_pos hi]
    refine Settles.bind (settles_call id) fun reply => ?_
    cases reply with
    | ok b => trivial
    | error fault => exact ih i hi fault

theorem settles_candidates : (candidates r.subject p).run.Settles Sane := by
  refine Settles.run_bind (settles_call id) fun holders => ?_
  cases r.subject with
  | challenge => exact Settles.run_bind (settles_call id) fun _ => trivial
  | transfer => trivial

theorem settles_fetchBundle : (fetchBundle r p).run.Settles Sane := by
  refine Settles.run_bind (Settles.bind (settles_call id) fun _ => trivial) fun reply => ?_
  cases reply with
  | ok b => trivial
  | error fault =>
    refine Settles.run_bind (settles_adapt settles_candidates) fun candidates => ?_
    dsimp only
    split
    · trivial
    · exact settles_askDonors

/-- The bundle was downloaded from some node. -/
def Downloaded (bundle : String) (b : BundleMetadata) (es : List (Exchange Query)) : Prop :=
  ∃ node timeout, ⟨.download bundle node timeout, .answer (.ok b)⟩ ∈ es

theorem held_askDonors {bundle : String} {donors : List String} {attempts : Nat}
    {last : DownloadFault} {b : BundleMetadata}
    (h : (askDonors r bundle donors attempts last).Held es (.answer (.ok b))) :
    Downloaded bundle b es := by
  fun_induction askDonors r bundle donors attempts last generalizing es with
  | case1 => cases h.2
  | case2 donors attempts last hne ih =>
    obtain ⟨i, es₁, es₂, rfl, -, h⟩ | ⟨-, he⟩ := Held.bind_inv h
    · split at h
      · rename_i hi
        obtain ⟨reply, es₃, es₄, rfl, h₃, h⟩ | ⟨-, he⟩ := Held.bind_inv h
        · cases reply with
          | ok b' =>
            cases h.2
            rw [held_call h₃]
            exact ⟨_, _, List.mem_append_right _ (List.mem_append_left _ List.mem_cons_self)⟩
          | error fault =>
            obtain ⟨node, timeout, hmem⟩ := ih i hi fault h
            exact ⟨node, timeout, List.mem_append_right _ (List.mem_append_right _ hmem)⟩
        · cases he
      · cases h.2
    · cases he

/-- A bundle that is had was downloaded. -/
theorem held_fetchBundle {b : BundleMetadata}
    (h : (fetchBundle r p).run.Held es (.answer (.ok b))) : Downloaded p.bundle b es := by
  obtain ⟨reply, es₁, es₂, rfl, h₁, h⟩ | ⟨_, -, he⟩ | ⟨-, he⟩ := Held.run_bind_inv h
  · obtain ⟨reply', es₃, es₄, rfl, h₃, h₄⟩ | ⟨-, he⟩ := Held.bind_inv h₁
    · cases reply with
      | ok b' =>
        cases h.2
        cases h₄.2
        rw [held_call h₃]
        exact ⟨_, _, List.mem_append_left _ (List.mem_append_left _ List.mem_cons_self)⟩
      | error fault =>
        obtain ⟨candidates, es₅, es₆, rfl, -, h⟩ | ⟨_, -, he⟩ | ⟨-, he⟩ := Held.run_bind_inv h
        · dsimp only at h
          split at h
          · cases h.2
          · obtain ⟨node, timeout, hmem⟩ := held_askDonors h
            exact ⟨node, timeout, List.mem_append_right _ (List.mem_append_right _ hmem)⟩
        · cases he
        · cases he
    · cases he
  · cases he
  · cases he

end Resolver

end Sheltering
