import Sheltering.Proofs.Resolver.Scope
import Sheltering.Proofs.Resolver.Session
import Sheltering.Proofs.Resolver.Trial
import Sheltering.Resolver.Script

/-!
# The discipline of backing off

* `Resolver.goes_attempt`: an attempt is disciplined, and the windows after it are as it says.
* `Resolver.Part`, `Resolver.Scene`: a call to a resolver, cut into its trials and what comes before
  and after them.
* `Resolver.backs_off`: in every session every trial is disciplined, given all trials before it.
-/

namespace Sheltering

open Dialogue (Goes Surroundings goes_beats)
open Query (IsCalm)
open Recall (Later)

namespace Resolver

open Trial

variable {r : Resolver} {p : Proposition} {past : List Trial} {bs : List (Beat Query Recall)}
  {m m' : Recall}

theorem isCalm_of_isAbout {q : Query} (h : q.IsAbout p) : q.IsCalm := by
  cases q with
  | remember => exact h.elim
  | _ => trivial

/-! ## One attempt -/

/-- How an attempt may go on that is not skipped at once. -/
inductive Pursued (p : Proposition) (m : Recall) :
    List (Beat Query Recall) → Reply Outcome → Recall → Prop
  /-- It does not fail, and it opens no window. -/
  | unfailed {bs : List (Beat Query Recall)} {ending : Reply Outcome} {m' : Recall}
      (hne : ending ≠ suppression) (hf : ∀ fault, ending ≠ .answer (.failed fault))
      (hm : Later m m') : Pursued p m bs ending m'
  /-- It fails, and the failure is remembered. -/
  | failed {earlier : List (Beat Query Recall)} {fault : ResolutionFault} {ttl : Span}
      {m₁ m' : Recall} (hm : Later m m₁) (hd : 0 ≤ ttl.nanos)
      (hc : Recall.conduct (.remember p.id ttl) m₁ (.answer ()) m') :
    Pursued p m (earlier ++ [⟨⟨.retryTimeout, .answer ttl⟩, m₁⟩,
      ⟨⟨.remember p.id ttl, .answer ()⟩, m'⟩]) (.answer (.failed fault)) m'

/-- An attempt that is not skipped at once. -/
def pursue (r : Resolver) (p : Proposition) : Dialogue Query Outcome := do
  match ← (resolve r p).run with
  | .ok outcome => return outcome
  | .error fault => backOff p fault

theorem goes_pursue {ending : Reply Outcome}
    (h : (pursue r p).Goes Recall.conduct m bs ending m') : Pursued p m bs ending m' := by
  have hcalm : (resolve r p).run.Asks IsCalm := asks_resolve.mono fun _ => isCalm_of_isAbout
  obtain ⟨result, bs₁, m₁, bs₂, rfl, h₁, h₂⟩ | ⟨h₁, rfl⟩ := Goes.bind_inv h
  · have hm := Recall.later_of_goes hcalm h₁
    cases result with
    | ok outcome =>
      obtain ⟨rfl, rfl, rfl⟩ := h₂
      obtain ⟨hne, hf⟩ := yields_resolve.held h₁.held
      exact .unfailed (fun he => hne (Reply.answer.inj he))
        (fun fault he => hf fault (Reply.answer.inj he)) hm
    | error fault =>
      obtain ⟨ttl, bs₃, m₂, bs₄, rfl, h₃, h₄⟩ | ⟨h₃, rfl⟩ := Goes.bind_inv h₂
      · obtain ⟨rfl, hc₂⟩ := Dialogue.goes_call h₃
        obtain ⟨_, bs₅, m₃, bs₆, rfl, h₅, rfl, rfl, rfl⟩ | ⟨h₅, -⟩ := Goes.bind_inv h₄
        · obtain ⟨rfl, hc₃⟩ := Dialogue.goes_call h₅
          exact .failed (hm.trans (Recall.later_of_conduct hc₂ trivial)) hc₂.2.2 hc₃
        · exact nomatch (Dialogue.goes_call h₅).2.2.1
      · obtain ⟨-, hc₂⟩ := Dialogue.goes_call h₃
        exact .unfailed nofun nofun (hm.trans (Recall.later_of_conduct hc₂ trivial))
  · exact .unfailed nofun nofun (Recall.later_of_goes hcalm h₁)

/-- An attempt is disciplined, and the windows after it are as it says. -/
theorem goes_attempt {ending : Reply Outcome}
    (h : (attempt r p).Goes Recall.conduct m bs ending m') (hm : Remembered past m) :
    Disciplined r past ⟨p, bs, ending⟩ ∧ Remembered (⟨p, bs, ending⟩ :: past) m' := by
  have hheld := h.held
  obtain ⟨suppressed, bs₁, m₁, bs₂, rfl, h₁, h₂⟩ | ⟨h₁, -⟩ := Goes.bind_inv h
  · obtain ⟨rfl, hc⟩ := Dialogue.goes_call h₁
    have hlook := Reply.answer.inj (Recall.reply_of_isSuppressed hc)
    have hm₁ := hm.later (Recall.later_of_conduct hc trivial)
    have hopen := hm p.id _ hc.1
    cases suppressed with
    | true =>
      obtain ⟨rfl, rfl, rfl⟩ := h₂
      have hs : Suppressed past p.id m'.now := hopen.mp (of_decide_eq_true hlook.symm)
      exact ⟨⟨hheld, ⟨_, rfl, iff_of_true rfl hs⟩, fun _ => rfl, fun _ => nofun⟩, hm₁.skipped rfl⟩
    | false =>
      have hs : ¬ Suppressed past p.id m₁.now := mt hopen.mpr (of_decide_eq_false hlook.symm)
      cases goes_pursue h₂ with
      | unfailed hne hf hlater =>
        refine ⟨⟨hheld, ⟨_, rfl, iff_of_false hne hs⟩, fun he => absurd he hne,
          fun fault he => absurd he (hf fault)⟩, ?_⟩
        exact (hm₁.later hlater).unfailed (hs ∘ Suppressed.earlier hlater.le) hne hf
      | @failed earlier fault ttl m₂ _ hlater hd hc' =>
        have hfailed : FailedAt ⟨p, [⟨⟨.isSuppressed p.id, .answer false⟩, m₁⟩] ++
            (earlier ++ [⟨⟨.retryTimeout, .answer ttl⟩, m₂⟩,
              ⟨⟨.remember p.id ttl, .answer ()⟩, m'⟩]), .answer (.failed fault)⟩ m'.now ttl :=
          ⟨⟨fault, rfl⟩, _ :: earlier, m₂, m', rfl, rfl⟩
        exact ⟨⟨hheld, ⟨_, rfl, iff_of_false nofun hs⟩, nofun, fun _ _ => ⟨_, _, hfailed⟩⟩,
          (hm₁.later hlater).failed hc' hd hfailed⟩
  · exact nomatch (Dialogue.goes_call h₁).2.2.1

/-! ## Parts and scenes -/

/-- A part of a call: a trial, or what comes before and after the trials. -/
inductive Part where
  | trial (trial : Trial)
  | other (bs : List (Beat Query Recall))

namespace Part

def beats : Part → List (Beat Query Recall)
  | trial t => t.beats
  | other bs => bs

def trial? : Part → Option Trial
  | trial t => some t
  | other _ => none

/-- The part without the states of the memory. -/
def chapter : Part → Chapter
  | trial t => .attempt t.proposition (t.beats.map (·.exchange)) t.ending
  | other bs => .other (bs.map (·.exchange))

/-- Before and after the trials the feeds are asked for, and closed windows are dropped. -/
def IsBrief : Part → Prop
  | trial _ => True
  | other bs => ∀ b ∈ bs, b.exchange.question.IsFeed ∨ b.exchange.question = .sweep

end Part

/-- A call to a resolver, the parts that it was made of, and the reply. -/
structure Scene where
  call : ResolverCall
  parts : List Part
  reply : Reply ResolverReply

namespace Scene

def beats (s : Scene) : List (Beat Query Recall) := s.parts.flatMap Part.beats

def trials (s : Scene) : List Trial := s.parts.filterMap Part.trial?

structure Lawful (s : Scene) : Prop where
  brief : ∀ part ∈ s.parts, part.IsBrief
  reply : Episode.Reported (s.parts.map Part.chapter) s.reply s.call

end Scene

/-! ## Decomposition -/

/-- The beats are those of some parts, in which every trial is disciplined, and the windows after
them are as they say. -/
structure Retold (r : Resolver) (past : List Trial) (parts : List Part)
    (bs : List (Beat Query Recall)) (m' : Recall) : Prop where
  beats : bs = parts.flatMap Part.beats
  brief : ∀ part ∈ parts, part.IsBrief
  trials : AllDisciplined r past (parts.filterMap Part.trial?)
  windows : Remembered ((parts.filterMap Part.trial?).reverse ++ past) m'

/-- The ends of the trials among some parts. -/
def endings (parts : List Part) : List (Reply Outcome) :=
  (parts.map Part.chapter).filterMap Chapter.ending?

variable {ps : List Proposition} {mode : Mode} {parts more : List Part}
  {bs₁ bs₂ : List (Beat Query Recall)} {m₁ m₂ : Recall}

theorem endings_append : endings (parts ++ more) = endings parts ++ endings more := by
  rw [endings, List.map_append, List.filterMap_append]
  rfl

theorem endings_other : endings [.other bs] = [] := rfl

theorem retold_nil (hm : Remembered past m) : Retold r past [] [] m :=
  ⟨rfl, List.forall_mem_nil _, trivial, hm⟩

theorem Retold.append (h₁ : Retold r past parts bs₁ m₁)
    (h₂ : Retold r ((parts.filterMap Part.trial?).reverse ++ past) more bs₂ m₂) :
    Retold r past (parts ++ more) (bs₁ ++ bs₂) m₂ := by
  obtain ⟨rfl, hb₁, ht₁, -⟩ := h₁
  obtain ⟨rfl, hb₂, ht₂, hw⟩ := h₂
  refine ⟨List.flatMap_append.symm, List.forall_mem_append.mpr ⟨hb₁, hb₂⟩, ?_, ?_⟩
  · rw [List.filterMap_append]
    exact allDisciplined_append ht₁ ht₂
  · rw [List.filterMap_append, List.reverse_append, List.append_assoc]
    exact hw

theorem retold_trial {ending : Reply Outcome}
    (h : (attempt r p).Goes Recall.conduct m bs ending m') (hm : Remembered past m) :
    Retold r past [.trial ⟨p, bs, ending⟩] bs m' := by
  obtain ⟨hd, hm'⟩ := goes_attempt h hm
  exact ⟨(List.append_nil _).symm, List.forall_mem_singleton.mpr trivial, ⟨hd, trivial⟩, hm'⟩

theorem retold_other {α : Type} {d : Dialogue Query α} {ending : Reply α}
    (hd : d.Asks fun q => q.IsFeed ∨ q = .sweep) (h : d.Goes Recall.conduct m bs ending m')
    (hm : Remembered past m) : Retold r past [.other bs] bs m' := by
  have hlater : Later m m' := by
    refine Recall.later_of_goes (hd.mono ?_) h
    rintro q (hq | rfl)
    · cases q with
      | remember => exact hq.elim
      | _ => trivial
    · trivial
  refine ⟨(List.append_nil _).symm, List.forall_mem_singleton.mpr fun b hb => ?_, trivial,
    hm.later hlater⟩
  exact hd.held h.held b.exchange (List.mem_map_of_mem hb)

theorem goes_attempts {ending : Reply (List Outcome)}
    (h : (attempts r mode ps).Goes Recall.conduct m bs ending m') (hm : Remembered past m) :
    ∃ parts, Retold r past parts bs m' ∧ ∀ outcomes, ending = .answer outcomes →
      endings parts = outcomes.map .answer := by
  induction ps generalizing m bs ending past with
  | nil =>
    obtain ⟨rfl, rfl, rfl⟩ := h
    refine ⟨[], retold_nil hm, fun outcomes ho => ?_⟩
    cases ho
    rfl
  | cons p rest ih =>
    obtain ⟨outcome, bs₁, m₁, bs₂, rfl, h₁, h₂⟩ | ⟨h₁, rfl⟩ := Goes.bind_inv h
    · have htrial := retold_trial h₁ hm
      split at h₂
      · obtain ⟨rfl, rfl, rfl⟩ := h₂
        rw [List.append_nil]
        refine ⟨_, htrial, fun outcomes ho => ?_⟩
        cases ho
        rfl
      · obtain ⟨later, bs₃, m₂, bs₄, rfl, h₃, h₄⟩ | ⟨h₃, rfl⟩ := Goes.bind_inv h₂
        · obtain ⟨rfl, rfl, rfl⟩ := h₄
          obtain ⟨parts, hretold, hout⟩ := ih h₃ htrial.windows
          rw [List.append_nil]
          refine ⟨_, htrial.append hretold, fun outcomes ho => ?_⟩
          cases ho
          exact congrArg (Reply.answer outcome :: ·) (hout later rfl)
        · obtain ⟨parts, hretold, -⟩ := ih h₃ htrial.windows
          exact ⟨_, htrial.append hretold, nofun⟩
    · exact ⟨_, retold_trial h₁ hm, nofun⟩

theorem goes_batch {ending : Reply (Except Fault BatchReport)}
    (h : (batch r mode).run.Goes Recall.conduct m bs ending m') (hm : Remembered past m) :
    ∃ parts, Retold r past parts bs m' ∧ ∀ report, ending = .answer (.ok report) →
      ∃ opened outcomes, endings parts = outcomes.map .answer ∧
        report = BatchReport.ofOutcomes opened outcomes := by
  have hfeeds : (ongoing r.node).run.Asks fun q => q.IsFeed ∨ q = .sweep :=
    asks_ongoing_feed.mono fun _ => .inl
  have hsweep : Ask.sweep.Asks fun q => q.IsFeed ∨ q = .sweep := Dialogue.asks_call (.inr rfl)
  obtain ⟨opened, bs₁, m₁, bs₂, rfl, h₁, h₂⟩ | ⟨fault, h₁, rfl⟩ | ⟨h₁, rfl⟩ :=
    Goes.run_bind_inv h
  · have hopened := retold_other (r := r) hfeeds h₁ hm
    obtain ⟨outcomes, bs₃, m₂, bs₄, rfl, h₃, h₄⟩ | ⟨h₃, rfl⟩ := Goes.lift_bind_inv h₂
    · obtain ⟨parts, hretold, hout⟩ := goes_attempts h₃ hopened.windows
      have hboth := hopened.append hretold
      obtain ⟨swept, bs₅, m₃, bs₆, rfl, h₅, rfl, rfl, rfl⟩ | ⟨h₅, rfl⟩ := Goes.lift_bind_inv h₄
      · rw [List.append_nil, ← List.append_assoc]
        refine ⟨_, hboth.append (retold_other hsweep h₅ hboth.windows), fun report he => ?_⟩
        cases he
        refine ⟨opened.length, outcomes, ?_, rfl⟩
        rw [endings_append, endings_append, endings_other, endings_other, hout outcomes rfl,
          List.nil_append, List.append_nil]
      · rw [← List.append_assoc]
        exact ⟨_, hboth.append (retold_other hsweep h₅ hboth.windows), nofun⟩
    · obtain ⟨parts, hretold, -⟩ := goes_attempts h₃ hopened.windows
      exact ⟨_, hopened.append hretold, nofun⟩
  · exact ⟨_, retold_other hfeeds h₁ hm, nofun⟩
  · exact ⟨_, retold_other hfeeds h₁ hm, nofun⟩

theorem goes_respond {call : ResolverCall} {reply : Reply ResolverReply}
    (h : (respond r call).Goes Recall.conduct m bs reply m') (hm : Remembered past m) :
    ∃ parts, Retold r past parts bs m' ∧
      Episode.Reported (parts.map Part.chapter) reply call := by
  cases call with
  | attempt p =>
    obtain ⟨outcome, bs₁, m₁, bs₂, rfl, h₁, rfl, rfl, rfl⟩ | ⟨h₁, rfl⟩ := Goes.bind_inv h
    · rw [List.append_nil]
      exact ⟨_, retold_trial h₁ hm, bs₁.map (·.exchange), _, rfl, rfl⟩
    · exact ⟨_, retold_trial h₁ hm, bs.map (·.exchange), _, rfl, rfl⟩
  | batch mode =>
    obtain ⟨report, bs₁, m₁, bs₂, rfl, h₁, rfl, rfl, rfl⟩ | ⟨h₁, rfl⟩ := Goes.bind_inv h
    · obtain ⟨parts, hretold, hreport⟩ := goes_batch h₁ hm
      rw [List.append_nil]
      refine ⟨parts, hretold, fun report' he => hreport report' ?_⟩
      cases he
      rfl
    · obtain ⟨parts, hretold, -⟩ := goes_batch h₁ hm
      exact ⟨parts, hretold, nofun⟩

/-- Sessions, with the trials of a past before them. -/
theorem goes_session {calls : List ResolverCall} {ending : Reply (List (Reply ResolverReply))}
    (h : (session r calls).Goes Recall.conduct m bs ending m') (hm : Remembered past m) :
    ∃ scenes : List Scene, scenes.map (·.call) = calls ∧
      ending = .answer (scenes.map (·.reply)) ∧ bs = scenes.flatMap Scene.beats ∧
      (∀ scene ∈ scenes, scene.Lawful) ∧ AllDisciplined r past (scenes.flatMap Scene.trials) ∧
      Remembered ((scenes.flatMap Scene.trials).reverse ++ past) m' := by
  induction calls generalizing m bs ending past with
  | nil =>
    obtain ⟨rfl, rfl, rfl⟩ := h
    exact ⟨[], rfl, rfl, rfl, List.forall_mem_nil _, trivial, hm⟩
  | cons call rest ih =>
    obtain ⟨reply, bs₁, m₁, bs₂, endings, rfl, hcall, hlater, rfl⟩ := Goes.settled_cons_inv h
    obtain ⟨parts, ⟨rfl, hbrief, htrials, hm₁⟩, hreply⟩ := goes_respond hcall hm
    obtain ⟨scenes, rfl, rfl, rfl, hlawful, hrest, hm'⟩ := ih hlater hm₁
    refine ⟨⟨call, parts, reply⟩ :: scenes, rfl, rfl, rfl,
      List.forall_mem_cons.mpr ⟨⟨hbrief, hreply⟩, hlawful⟩,
      allDisciplined_append htrials hrest, ?_⟩
    rw [List.flatMap_cons, List.reverse_append, List.append_assoc]
    exact hm'

/-- In every session of a resolver that has not failed yet, every trial is disciplined, given all
trials before it, and at the end the windows are those that the trials say. -/
theorem backs_off {calls : List ResolverCall} {ending : Reply (List (Reply ResolverReply))}
    (h : (session r calls).Goes Recall.conduct m bs ending m') (hm : m.backoff = .empty) :
    ∃ scenes : List Scene, scenes.map (·.call) = calls ∧
      ending = .answer (scenes.map (·.reply)) ∧ bs = scenes.flatMap Scene.beats ∧
      (∀ scene ∈ scenes, scene.Lawful) ∧ AllDisciplined r [] (scenes.flatMap Scene.trials) ∧
      Remembered (scenes.flatMap Scene.trials).reverse m' := by
  have hempty : Remembered [] m := fun id t _ =>
    iff_of_false (hm ▸ Backoff.not_open_empty) not_suppressed_nil
  obtain ⟨scenes, hcalls, hending, hbeats, hlawful, htrials, hm'⟩ := goes_session h hempty
  rw [List.append_nil] at hm'
  exact ⟨scenes, hcalls, hending, hbeats, hlawful, htrials, hm'⟩

/-! ## A bundle that no node has -/

namespace Hopeless

/-- A transfer of a bundle that no node has. -/
def transfer : Proposition := ⟨"transfer", "0xB", "bundle", 1, ⟨1, 1⟩⟩

def resolver : Resolver := { subject := .transfer, node := "0xA" }

def start : Recall := { now := ⟨1700000000, 0⟩, readable := by decide }

/-- The reading of the clock after a number of seconds, if that is within the calendar. -/
def later (m : Recall) (seconds : Nat) : { t : Instant // m.now ≤ t ∧ t.Readable } :=
  if h : m.now ≤ m.now.add (.ofSeconds seconds) ∧ (m.now.add (.ofSeconds seconds)).Readable
  then ⟨_, h⟩
  else ⟨m.now, Instant.le_refl _, m.readable⟩

/-- Every lookup comes 40 seconds after what was asked before it. Failures are left alone for a
minute. -/
def world : Surroundings Query Recall := fun q m =>
  let reading := later m (match q with | .isSuppressed _ => 40 | _ => 0)
  match m.backoff.reply reading.1 q with
  | some (a, backoff) => (.answer a, ⟨backoff, reading.1, reading.2.2⟩)
  | none => ((({} : Script).reply resolver.node q).1, ⟨m.backoff, reading.1, reading.2.2⟩)

theorem world_conduct (q : Query) (m : Recall) :
    Recall.conduct q m (world q m).1 (world q m).2 := by
  cases q with
  | isSuppressed => exact ⟨(later m 40).2.1, rfl, rfl⟩
  | remember | sweep => exact ⟨(later m 0).2.1, rfl, rfl⟩
  | retryTimeout => exact ⟨(later m 0).2.1, rfl, show (0 : Int) ≤ 60 * 1000000000 by decide⟩
  | _ => exact ⟨(later m 0).2.1, rfl, trivial⟩

/-- Three attempts at the transfer. -/
def calls : List ResolverCall := List.replicate 3 (.attempt transfer)

/-- The outcome of an attempt, in the reply to a call for it. -/
def outcome? : Reply ResolverReply → Option Outcome
  | .answer (.outcome outcome) => some outcome
  | _ => none

/-- What the first attempt and the last come to. -/
def failure : Outcome := .failed (.download "bundle" "0xB" (.unreachable "0xB offline"))

theorem outcomes : (Dialogue.run world (session resolver calls) start).ending.map
    (·.map outcome?) = .answer [failure, some (.skipped .recentlyFailed), failure] := by
  decide +kernel

end Hopeless

open Hopeless in
/-- Of three attempts at a bundle that no node has, 40 seconds apart, the second is skipped. -/
theorem backs_off_three_attempts :
    ∃ scenes : List Scene, scenes.map (fun scene => outcome? scene.reply) =
        [some failure, some (.skipped .recentlyFailed), some failure] ∧
      AllDisciplined resolver [] (scenes.flatMap Scene.trials) := by
  obtain ⟨scenes, -, hending, -, -, htrials, -⟩ :=
    backs_off (goes_beats world_conduct (session resolver calls) start) rfl
  have houtcomes := outcomes
  rw [hending] at houtcomes
  refine ⟨scenes, ?_, htrials⟩
  exact (List.map_map ..).symm.trans (Reply.answer.inj houtcomes)

end Resolver

end Sheltering
