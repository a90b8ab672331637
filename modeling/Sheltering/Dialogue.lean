/-!
# Dialogues

A `Dialogue` is a computation that asks its surroundings questions and goes on with the replies. It
says nothing about who replies, so a statement about a dialogue holds for all surroundings.

* `Question`: a type of questions, each with a type of answers.
* `Reply`: an answer, or a panic, which ends the dialogue that asked unless it is `settled`.
* `Dialogue.run`: a dialogue held with surroundings that have a state. The `Run` has every
  exchange in order.
* `Dialogue.refine`: every question answered by a dialogue of finer questions.
-/

namespace Sheltering

/-- A type of questions. -/
class Question (Q : Type) where
  /-- What a question is answered with. -/
  Answer : Q → Type

export Question (Answer)

/-- How a question or a whole dialogue ends. -/
inductive Reply (α : Type) where
  | answer (a : α)
  | panic
deriving DecidableEq, Repr

namespace Reply

variable {α β : Type}

/-- The reply with its answer changed. -/
def map (f : α → β) : Reply α → Reply β
  | answer a => answer (f a)
  | panic => panic

/-- The answer, if there is one. -/
def toOption : Reply α → Option α
  | answer a => some a
  | panic => none

end Reply

/-- A computation that asks questions. -/
inductive Dialogue (Q : Type) [Question Q] (α : Type) : Type where
  | done (a : α)
  | panic
  | ask (q : Q) (next : Reply (Answer q) → Dialogue Q α)

namespace Dialogue

variable {Q R α β γ : Type} [Question Q] [Question R]

/-- One dialogue after another. A panic ends both. -/
def bind : Dialogue Q α → (α → Dialogue Q β) → Dialogue Q β
  | done a, f => f a
  | panic, _ => panic
  | ask q next, f => ask q fun r => (next r).bind f

instance : Monad (Dialogue Q) where
  pure := done
  bind := bind

@[simp] theorem pure_eq (a : α) : (pure a : Dialogue Q α) = done a := rfl

@[simp] theorem done_bind (a : α) (f : α → Dialogue Q β) : (done a).bind f = f a := rfl

@[simp] theorem panic_bind (f : α → Dialogue Q β) : (panic : Dialogue Q α).bind f = panic := rfl

@[simp] theorem ask_bind (q : Q) (next : Reply (Answer q) → Dialogue Q α)
    (f : α → Dialogue Q β) : (ask q next).bind f = ask q fun r => (next r).bind f := rfl

theorem bind_done (d : Dialogue Q α) : d.bind done = d := by
  induction d with
  | done | panic => rfl
  | ask q next ih => simp [ih]

theorem bind_assoc (d : Dialogue Q α) (f : α → Dialogue Q β) (g : β → Dialogue Q γ) :
    (d.bind f).bind g = d.bind fun a => (f a).bind g := by
  induction d with
  | done | panic => rfl
  | ask q next ih => simp [ih]

/-- The answer to one question. -/
def call (q : Q) : Dialogue Q (Answer q) :=
  ask q fun
    | .answer a => done a
    | .panic => panic

/-- How a dialogue ends, as a value: a panic in it does not end what follows. -/
def settled : Dialogue Q α → Dialogue Q (Reply α)
  | done a => done (.answer a)
  | panic => done .panic
  | ask q next => ask q fun r => (next r).settled

/-- Ends as a settled dialogue did. -/
def unsettle : Reply α → Dialogue Q α
  | .answer a => done a
  | .panic => panic

/-- Puts a dialogue of finer questions in the place of every question. -/
def refine (f : (q : Q) → Dialogue R (Answer q)) : Dialogue Q α → Dialogue R α
  | done a => done a
  | panic => panic
  | ask q next => (f q).settled.bind fun r => (next r).refine f

/-! ## Runs -/

/-- A question and the reply to it. -/
structure Exchange (Q : Type) [Question Q] where
  question : Q
  reply : Reply (Answer question)

/-- Surroundings with a state: how a question is replied to, and the state after it. -/
def Surroundings (Q : Type) [Question Q] (σ : Type) : Type :=
  (q : Q) → σ → Reply (Answer q) × σ

/-- A dialogue that was held: its exchanges, its end, and the state of the surroundings after it. -/
structure Run (Q : Type) [Question Q] (σ α : Type) where
  exchanges : List (Exchange Q)
  ending : Reply α
  state : σ

variable {σ : Type}

/-- Holds a dialogue with surroundings in a state. -/
def run (world : Surroundings Q σ) : Dialogue Q α → σ → Run Q σ α
  | done a, s => ⟨[], .answer a, s⟩
  | panic, s => ⟨[], .panic, s⟩
  | ask q next, s =>
    let (r, s) := world q s
    let rest := run world (next r) s
    { rest with exchanges := ⟨q, r⟩ :: rest.exchanges }

@[simp] theorem run_done (world : Surroundings Q σ) (a : α) (s : σ) :
    run world (done a) s = ⟨[], .answer a, s⟩ := rfl

@[simp] theorem run_panic (world : Surroundings Q σ) (s : σ) :
    run world (panic : Dialogue Q α) s = ⟨[], .panic, s⟩ := rfl

/-- A run of two dialogues is the run of the first, then of the second from where it left the
surroundings. -/
theorem run_bind (world : Surroundings Q σ) (d : Dialogue Q α) (f : α → Dialogue Q β) (s : σ) :
    run world (d.bind f) s =
      let first := run world d s
      match first.ending with
      | .panic => ⟨first.exchanges, .panic, first.state⟩
      | .answer a =>
        let second := run world (f a) first.state
        { second with exchanges := first.exchanges ++ second.exchanges } := by
  induction d generalizing s with
  | done a => simp
  | panic => simp
  | ask q next ih =>
    simp only [ask_bind, run, ih]
    split <;> simp_all

end Dialogue

end Sheltering
