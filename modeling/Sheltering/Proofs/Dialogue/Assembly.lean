import Sheltering.Proofs.Dialogue.Conduct

/-!
# Dialogues that take turns

Several speakers hold dialogues with the same surroundings, one exchange at a time and in any order.
The surroundings keep to a `Conduct`, so they may answer in several ways.

* `Assembly`: where every speaker has got to, and the state of the surroundings.
* `Moment`: one exchange of one speaker, with the assembly before and after it.
* `IsRun`: moments that follow one another.
* `IsRun.invariant`: what every moment keeps holds throughout a run.
* `play`: the run with deterministic surroundings and given turns.
* `Assembly.Stand`: a proof says of every speaker where it stands; `Moment.Lawful.stand` is what one
  moment does to that.
-/

namespace Sheltering

/-- Speakers with common surroundings. Each is the dialogue that is left of it. -/
structure Assembly (Q : Type) [Question Q] (σ α : Type) where
  speakers : List (Dialogue Q α)
  state : σ

/-- An exchange of one of the speakers. -/
structure Moment (Q : Type) [Question Q] (σ α : Type) where
  before : Assembly Q σ α
  who : Nat
  exchange : Dialogue.Exchange Q
  after : Assembly Q σ α

variable {Q σ α : Type} [Question Q] {conduct : Conduct Q σ}

namespace Moment

variable {m : Moment Q σ α}

/-- The speaker's next question is replied to, and nobody else moves. -/
def Lawful (conduct : Conduct Q σ) (m : Moment Q σ α) : Prop :=
  ∃ next, m.before.speakers[m.who]? = some (.ask m.exchange.question next) ∧
    conduct m.exchange.question m.before.state m.exchange.reply m.after.state ∧
    m.after.speakers = m.before.speakers.set m.who (next m.exchange.reply)

theorem Lawful.length_eq (h : m.Lawful conduct) :
    m.after.speakers.length = m.before.speakers.length := by
  obtain ⟨next, -, -, hset⟩ := h
  rw [hset, List.length_set]

/-- Nobody but the one who asks moves. -/
theorem Lawful.other (h : m.Lawful conduct) {k : Nat} (hk : k ≠ m.who) :
    m.after.speakers[k]? = m.before.speakers[k]? := by
  obtain ⟨next, -, -, hset⟩ := h
  rw [hset, List.getElem?_set_ne (Ne.symm hk)]

/-- The one who asks goes on as it does after the reply. -/
theorem Lawful.self (h : m.Lawful conduct) {d : Dialogue Q α}
    (hd : m.before.speakers[m.who]? = some d) :
    ∃ next, d = .ask m.exchange.question next ∧
      conduct m.exchange.question m.before.state m.exchange.reply m.after.state ∧
      m.after.speakers[m.who]? = some (next m.exchange.reply) := by
  obtain ⟨next, hask, hc, hset⟩ := h
  obtain rfl := Option.some.inj (hd.symm.trans hask)
  obtain ⟨hlt, -⟩ := List.getElem?_eq_some_iff.mp hask
  refine ⟨next, rfl, hc, ?_⟩
  rw [hset, List.getElem?_set_self hlt]

end Moment

/-- The moments follow one another from an assembly on. -/
def IsRun (conduct : Conduct Q σ) : Assembly Q σ α → List (Moment Q σ α) → Prop
  | _, [] => True
  | a, m :: ms => m.before = a ∧ m.Lawful conduct ∧ IsRun conduct m.after ms

/-- The assembly after some moments. -/
def Assembly.last (a : Assembly Q σ α) : List (Moment Q σ α) → Assembly Q σ α
  | [] => a
  | m :: ms => m.after.last ms

namespace IsRun

variable {a : Assembly Q σ α} {ms ms' : List (Moment Q σ α)}

theorem append : IsRun conduct a (ms ++ ms') ↔
    IsRun conduct a ms ∧ IsRun conduct (a.last ms) ms' := by
  induction ms generalizing a with
  | nil => simp [IsRun, Assembly.last]
  | cons m ms ih => simp [IsRun, Assembly.last, ih, and_assoc]

/-- What holds at first and is kept by every moment holds at the end. -/
theorem invariant {p : Assembly Q σ α → Prop} (run : IsRun conduct a ms) (first : p a)
    (step : ∀ m ∈ ms, m.Lawful conduct → p m.before → p m.after) : p (a.last ms) := by
  induction ms generalizing a with
  | nil => exact first
  | cons m ms ih =>
    obtain ⟨rfl, hm, run⟩ := run
    have hafter := step m List.mem_cons_self hm first
    exact ih run hafter fun m' h' => step m' (List.mem_cons_of_mem _ h')

/-- What holds at first and is kept by every moment holds before and after each of them. -/
theorem invariant_at {p : Assembly Q σ α → Prop} (run : IsRun conduct a ms) (first : p a)
    (step : ∀ m ∈ ms, m.Lawful conduct → p m.before → p m.after) :
    ∀ m ∈ ms, m.Lawful conduct ∧ p m.before ∧ p m.after := by
  intro m hm
  obtain ⟨earlier, later, rfl⟩ := List.append_of_mem hm
  obtain ⟨run, hlast, hl, -⟩ := append.mp run
  have hbefore := invariant run first fun m' h' => step m' (List.mem_append_left _ h')
  rw [← hlast] at hbefore
  exact ⟨hl, hbefore, step m hm hl hbefore⟩

end IsRun

/-! ## Deterministic surroundings -/

/-- The moments of a run with deterministic surroundings, in which the speakers take turns as
listed. A speaker at its end is passed over. -/
def play (world : Dialogue.Surroundings Q σ) :
    List Nat → Assembly Q σ α → List (Moment Q σ α)
  | [], _ => []
  | k :: ks, a =>
    match a.speakers[k]? with
    | some (.ask q next) =>
      let (r, s) := world q a.state
      let after : Assembly Q σ α := ⟨a.speakers.set k (next r), s⟩
      ⟨a, k, ⟨q, r⟩, after⟩ :: play world ks after
    | _ => play world ks a

/-- Surroundings that keep to a conduct in every state they come into make runs of it. -/
theorem isRun_play {world : Dialogue.Surroundings Q σ} {turns : List Nat} {a : Assembly Q σ α}
    (h : ∀ m ∈ play world turns a, ∀ q,
      conduct q m.before.state (world q m.before.state).1 (world q m.before.state).2) :
    IsRun conduct a (play world turns a) := by
  induction turns generalizing a with
  | nil => trivial
  | cons k ks ih =>
    rw [play] at h ⊢
    split at h
    · rename_i q next hask
      obtain ⟨hc, hrest⟩ := List.forall_mem_cons.mp h
      exact ⟨rfl, ⟨next, hask, hc q, rfl⟩, ih hrest⟩
    · exact ih h

theorem reply_of_mem_play {world : Dialogue.Surroundings Q σ} {turns : List Nat}
    {a : Assembly Q σ α} {m : Moment Q σ α} (h : m ∈ play world turns a) :
    m.exchange.reply = (world m.exchange.question m.before.state).1 := by
  induction turns generalizing a with
  | nil => cases h
  | cons k ks ih =>
    rw [play] at h
    split at h
    · rcases List.mem_cons.mp h with rfl | h
      · rfl
      · exact ih h
    · exact ih h

/-! ## Where the speakers stand -/

section Standing

variable {β : Type} {place : Nat → β → Dialogue Q α → Prop}

/-- Every speaker is at the place that the map gives it. -/
def Assembly.Stand (place : Nat → β → Dialogue Q α → Prop) (a : Assembly Q σ α) (f : Nat → β) :
    Prop :=
  ∀ k d, a.speakers[k]? = some d → place k (f k) d

/-- The one who asks moves to a place of what is left of it, the others stay. -/
theorem Moment.Lawful.stand {m : Moment Q σ α} {f : Nat → β} (h : m.Lawful conduct)
    (hs : m.before.Stand place f) :
    ∃ next, place m.who (f m.who) (.ask m.exchange.question next) ∧
      m.after.speakers[m.who]? = some (next m.exchange.reply) ∧
      conduct m.exchange.question m.before.state m.exchange.reply m.after.state ∧
      ∀ x, place m.who x (next m.exchange.reply) → m.after.Stand place (moved f m.who x) := by
  obtain ⟨next, hask, hc, -⟩ := id h
  obtain ⟨next', hn, -, hafter⟩ := h.self hask
  obtain ⟨-, rfl⟩ := Dialogue.ask.inj hn
  refine ⟨next, hs _ _ hask, hafter, hc, fun x hx k d hd => ?_⟩
  by_cases hk : k = m.who
  · subst hk
    obtain rfl := Option.some.inj (hafter.symm.trans hd)
    rwa [moved_self]
  · rw [moved_ne f x hk]
    rw [h.other hk] at hd
    exact hs k d hd

end Standing

end Sheltering
