import Sheltering.Proofs.Resolver.Law
import Sheltering.Resolver.Batch

/-!
# Sessions with a resolver

* `Resolver.session`: calls to a resolver, one after the other.
* `Resolver.Episode`: a call, the chapters that it was made of, and the reply.
* `Resolver.lawful_session`: a session is a list of episodes in which every attempt keeps the law,
  and nothing is submitted or marked outside of attempts.
-/

namespace Sheltering

open Dialogue (Asks Exchange Held Surroundings held_call run run_held)

/-- A call to a resolver. -/
inductive ResolverCall where
  | attempt (p : Proposition)
  /-- A batch that stops after the first resolution, or one that attempts all. -/
  | batch (mode : Mode)

/-- What a call gives back. -/
inductive ResolverReply where
  | outcome (outcome : Outcome)
  | report (report : Except Fault BatchReport)

namespace Resolver

open Query (IsGate)

variable {r : Resolver} {es : List (Exchange Query)}

/-- Answers a call. -/
def respond (r : Resolver) : ResolverCall → Dialogue Query ResolverReply
  | .attempt p => do return .outcome (← attempt r p)
  | .batch mode => do return .report (← (batch r mode).run)

/-- Answers calls one after the other. A panic ends the call, not the session. -/
def session (r : Resolver) : List ResolverCall → Dialogue Query (List (Reply ResolverReply))
  | [] => pure []
  | call :: rest => do
    let reply ← (respond r call).settled
    let replies ← session r rest
    pure (reply :: replies)

/-! ## Chapters and episodes -/

/-- A part of a call: an attempt with its end, or what comes before and after the attempts. -/
inductive Chapter where
  | attempt (p : Proposition) (es : List (Exchange Query)) (ending : Reply Outcome)
  | other (es : List (Exchange Query))

namespace Chapter

def exchanges : Chapter → List (Exchange Query)
  | attempt _ es _ => es
  | other es => es

def ending? : Chapter → Option (Reply Outcome)
  | attempt _ _ ending => some ending
  | other _ => none

/-- An attempt keeps the law, and other parts commit to nothing. -/
def Lawful (r : Resolver) : Chapter → Prop
  | attempt p es ending => (Resolver.attempt r p).Held es ending ∧ Resolver.Lawful r p es ending
  | other es => ∀ e ∈ es, e.question.IsGate

end Chapter

/-- A call, the chapters that it was made of, and the reply. -/
structure Episode where
  call : ResolverCall
  chapters : List Chapter
  reply : Reply ResolverReply

namespace Episode

def exchanges (e : Episode) : List (Exchange Query) := e.chapters.flatMap Chapter.exchanges

/-- The reply to a call for one attempt is its outcome. A report counts the outcomes of the attempts
of its batch. -/
def Reported (chapters : List Chapter) (reply : Reply ResolverReply) : ResolverCall → Prop
  | .attempt p => ∃ es ending, chapters = [.attempt p es ending] ∧ reply = ending.map .outcome
  | .batch _ => ∀ report, reply = .answer (.report (.ok report)) → ∃ opened outcomes,
      chapters.filterMap Chapter.ending? = outcomes.map .answer ∧
        report = BatchReport.ofOutcomes opened outcomes

structure Lawful (r : Resolver) (e : Episode) : Prop where
  chapters : ∀ c ∈ e.chapters, c.Lawful r
  reply : Reported e.chapters e.reply e.call

end Episode

/-! ## Decomposition -/

/-- The exchanges are those of some chapters, which are lawful. -/
def Told (r : Resolver) (chapters : List Chapter) (es : List (Exchange Query)) : Prop :=
  es = chapters.flatMap Chapter.exchanges ∧ ∀ c ∈ chapters, c.Lawful r

variable {p : Proposition} {ps : List Proposition} {mode : Mode} {es₁ es₂ : List (Exchange Query)}
  {chapters more : List Chapter}

theorem told_nil : Told r [] [] :=
  ⟨rfl, List.forall_mem_nil _⟩

theorem Told.append (h₁ : Told r chapters es₁) (h₂ : Told r more es₂) :
    Told r (chapters ++ more) (es₁ ++ es₂) := by
  obtain ⟨rfl, hc⟩ := h₁
  obtain ⟨rfl, hm⟩ := h₂
  exact ⟨List.flatMap_append.symm, List.forall_mem_append.mpr ⟨hc, hm⟩⟩

theorem told_singleton {c : Chapter} (h : c.Lawful r) : Told r [c] c.exchanges :=
  ⟨(List.append_nil _).symm, List.forall_mem_singleton.mpr h⟩

theorem told_attempt {ending : Reply Outcome} (h : (attempt r p).Held es ending) :
    Told r [.attempt p es ending] es :=
  told_singleton ⟨h, lawful_attempt h⟩

theorem told_other (h : ∀ e ∈ es, e.question.IsGate) : Told r [.other es] es :=
  told_singleton h

/-- The attempts of a batch are its chapters, and their outcomes are those that it counts. -/
theorem held_attempts {ending : Reply (List Outcome)} (h : (attempts r mode ps).Held es ending) :
    ∃ chapters, Told r chapters es ∧ ∀ outcomes, ending = .answer outcomes →
      chapters.filterMap Chapter.ending? = outcomes.map .answer := by
  induction ps generalizing es ending with
  | nil =>
    obtain ⟨rfl, rfl⟩ := h
    refine ⟨[], told_nil, fun outcomes ho => ?_⟩
    cases ho
    rfl
  | cons p rest ih =>
    obtain ⟨outcome, es₁, es₂, rfl, h₁, h₂⟩ | ⟨h₁, rfl⟩ := Held.bind_inv h
    · split at h₂
      · obtain ⟨rfl, rfl⟩ := h₂
        refine ⟨_, (told_attempt h₁).append told_nil, fun outcomes ho => ?_⟩
        cases ho
        rfl
      · obtain ⟨later, es₃, es₄, rfl, h₃, h₄⟩ | ⟨h₃, rfl⟩ := Held.bind_inv h₂
        · obtain ⟨rfl, rfl⟩ := h₄
          obtain ⟨chapters, htold, hout⟩ := ih h₃
          rw [List.append_nil]
          refine ⟨_, (told_attempt h₁).append htold, fun outcomes ho => ?_⟩
          cases ho
          exact congrArg (Reply.answer outcome :: ·) (hout later rfl)
        · obtain ⟨chapters, htold, -⟩ := ih h₃
          exact ⟨_, (told_attempt h₁).append htold, fun _ ho => nomatch ho⟩
    · exact ⟨_, told_attempt h₁, fun _ ho => nomatch ho⟩

theorem asks_ongoing {node : String} : (ongoing node).run.Asks IsGate :=
  asks_ongoing_feed.mono fun _ => Query.isGate_of_isFeed

theorem held_batch {ending : Reply (Except Fault BatchReport)}
    (h : (batch r mode).run.Held es ending) :
    ∃ chapters, Told r chapters es ∧ ∀ report, ending = .answer (.ok report) →
      ∃ opened outcomes, chapters.filterMap Chapter.ending? = outcomes.map .answer ∧
        report = BatchReport.ofOutcomes opened outcomes := by
  obtain ⟨opened, es₁, es₂, rfl, h₁, h₂⟩ | ⟨fault, h₁, rfl⟩ | ⟨h₁, rfl⟩ := Held.run_bind_inv h
  · have hopened : Told r [.other es₁] es₁ := told_other (asks_ongoing.held h₁)
    obtain ⟨outcomes, es₃, es₄, rfl, h₃, h₄⟩ | ⟨h₃, rfl⟩ := Held.lift_bind_inv h₂
    · obtain ⟨chapters, htold, hout⟩ := held_attempts h₃
      have hsweep : ∀ {es : List (Exchange Query)} {reply : Reply Nat}, Ask.sweep.Held es reply →
          Told r [.other es] es := fun h => told_other (Asks.held (d := Ask.sweep) asks_gate h)
      obtain ⟨swept, es₅, es₆, rfl, h₅, rfl, rfl⟩ | ⟨h₅, rfl⟩ := Held.lift_bind_inv h₄
      · rw [List.append_nil]
        refine ⟨_, hopened.append (htold.append (hsweep h₅)), fun report he => ?_⟩
        cases he
        refine ⟨opened.length, outcomes, ?_, rfl⟩
        show List.filterMap Chapter.ending? (chapters ++ [.other es₅]) = _
        rw [List.filterMap_append, hout outcomes rfl]
        exact List.append_nil _
      · exact ⟨_, hopened.append (htold.append (hsweep h₅)), fun _ he => nomatch he⟩
    · obtain ⟨chapters, htold, -⟩ := held_attempts h₃
      exact ⟨_, hopened.append htold, fun _ he => nomatch he⟩
  · exact ⟨_, told_other (asks_ongoing.held h₁), fun _ he => nomatch he⟩
  · exact ⟨_, told_other (asks_ongoing.held h₁), fun _ he => nomatch he⟩

theorem held_respond {call : ResolverCall} {reply : Reply ResolverReply}
    (h : (respond r call).Held es reply) :
    ∃ chapters, Told r chapters es ∧ Episode.Reported chapters reply call := by
  cases call with
  | attempt p =>
    obtain ⟨outcome, es₁, es₂, rfl, h₁, rfl, rfl⟩ | ⟨h₁, rfl⟩ := Held.bind_inv h
    · rw [List.append_nil]
      exact ⟨_, told_attempt h₁, es₁, _, rfl, rfl⟩
    · exact ⟨_, told_attempt h₁, es, _, rfl, rfl⟩
  | batch mode =>
    obtain ⟨report, es₁, es₂, rfl, h₁, rfl, rfl⟩ | ⟨h₁, rfl⟩ := Held.bind_inv h
    · obtain ⟨chapters, htold, hreport⟩ := held_batch h₁
      rw [List.append_nil]
      refine ⟨chapters, htold, fun report' he => hreport report' ?_⟩
      cases he
      rfl
    · obtain ⟨chapters, htold, -⟩ := held_batch h₁
      exact ⟨chapters, htold, fun _ he => nomatch he⟩

theorem held_session {calls : List ResolverCall} {ending : Reply (List (Reply ResolverReply))}
    (h : (session r calls).Held es ending) :
    ∃ episodes : List Episode, episodes.map (·.call) = calls ∧
      ending = .answer (episodes.map (·.reply)) ∧ es = episodes.flatMap Episode.exchanges ∧
      ∀ e ∈ episodes, e.Lawful r := by
  induction calls generalizing es ending with
  | nil =>
    obtain ⟨rfl, rfl⟩ := h
    exact ⟨[], rfl, rfl, rfl, List.forall_mem_nil _⟩
  | cons call rest ih =>
    obtain ⟨reply, es₁, es₂, rfl, h₁, h₂⟩ | ⟨h₁, -⟩ := Held.bind_inv h
    · obtain ⟨reply', he, hcall⟩ := Held.settled_inv h₁
      cases he
      obtain ⟨chapters, ⟨rfl, hlawful⟩, hreply⟩ := held_respond hcall
      obtain ⟨replies, es₃, es₄, rfl, h₃, rfl, rfl⟩ | ⟨h₃, -⟩ := Held.bind_inv h₂
      · obtain ⟨episodes, rfl, he, rfl, hes⟩ := ih h₃
        cases he
        rw [List.append_nil]
        exact ⟨⟨call, chapters, reply⟩ :: episodes, rfl, rfl, rfl,
          List.forall_mem_cons.mpr ⟨⟨hlawful, hreply⟩, hes⟩⟩
      · obtain ⟨_, -, he, -⟩ := ih h₃
        cases he
    · obtain ⟨_, he, -⟩ := Held.settled_inv h₁
      cases he

/-- In every session every attempt keeps the law of submissions and marks, and nothing is submitted
or marked outside of attempts. -/
theorem lawful_session {σ : Type} (r : Resolver) (calls : List ResolverCall)
    (world : Surroundings Query σ) (s : σ) :
    ∃ episodes : List Episode, episodes.map (·.call) = calls ∧
      (run world (session r calls) s).ending = .answer (episodes.map (·.reply)) ∧
      (run world (session r calls) s).exchanges = episodes.flatMap Episode.exchanges ∧
      ∀ e ∈ episodes, e.Lawful r :=
  held_session (run_held world (session r calls) s)

end Resolver

end Sheltering
