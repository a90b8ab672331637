import Sheltering.Dialogue

/-!
# What a dialogue keeps to, whoever replies

* `Conduct`: what surroundings may reply to a question, and the state they are in after it.
* `Dialogue.Asks`: every question of a dialogue passes a test.
* `Dialogue.Keeps`: with all surroundings of a conduct, every question comes in a state in which it
  may be asked, and the dialogue ends as it should.
* `Dialogue.refine_bind`, `Dialogue.refine_settled`, `Dialogue.refine_refine`: refinement goes
  through dialogues.
-/

namespace Sheltering

/-- The replies that surroundings may give to a question in a state, each with the state after it.
-/
def Conduct (Q : Type) [Question Q] (σ : Type) : Type :=
  (q : Q) → σ → Reply (Answer q) → σ → Prop

section Maps

variable {ι β : Type} [DecidableEq ι]

/-- The map with `x` for `k`. -/
def moved (f : ι → β) (k : ι) (x : β) : ι → β := fun j => if j = k then x else f j

@[simp] theorem moved_self (f : ι → β) (k : ι) (x : β) : moved f k x k = x := if_pos rfl

theorem moved_ne (f : ι → β) {j k : ι} (x : β) (h : j ≠ k) : moved f k x j = f j := if_neg h

end Maps

namespace Dialogue

variable {P Q R σ α β : Type} [Question P] [Question Q] [Question R]

/-! ## Questions -/

/-- Every question, after whatever replies, passes a test. -/
def Asks (test : Q → Prop) : Dialogue Q α → Prop
  | done _ => True
  | panic => True
  | ask q next => test q ∧ ∀ r, (next r).Asks test

variable {test : Q → Prop}

theorem asks_call {q : Q} (h : test q) : (call q).Asks test := by
  refine ⟨h, fun r => ?_⟩
  cases r <;> trivial

theorem Asks.mono {test' : Q → Prop} {d : Dialogue Q α} (hd : d.Asks test)
    (h : ∀ q, test q → test' q) : d.Asks test' := by
  induction d with
  | done | panic => trivial
  | ask q next ih => exact ⟨h q hd.1, fun r => ih r (hd.2 r)⟩

theorem Asks.bind {d : Dialogue Q α} {f : α → Dialogue Q β} (hd : d.Asks test)
    (hf : ∀ a, (f a).Asks test) : (d.bind f).Asks test := by
  induction d with
  | done a => exact hf a
  | panic => trivial
  | ask q next ih => exact ⟨hd.1, fun r => ih r (hd.2 r)⟩

theorem Asks.settled {d : Dialogue Q α} (hd : d.Asks test) : d.settled.Asks test := by
  induction d with
  | done | panic => trivial
  | ask q next ih => exact ⟨hd.1, fun r => ih r (hd.2 r)⟩

theorem Asks.refine {test' : R → Prop} {f : (q : Q) → Dialogue R (Answer q)} {d : Dialogue Q α}
    (hd : d.Asks test) (hf : ∀ q, test q → (f q).Asks test') : (d.refine f).Asks test' := by
  induction d with
  | done | panic => trivial
  | ask q next ih => exact (hf q hd.1).settled.bind fun r => ih r (hd.2 r)

theorem Asks.run_bind {ε : Type} {x : ExceptT ε (Dialogue Q) α} {f : α → ExceptT ε (Dialogue Q) β}
    (hx : x.run.Asks test) (hf : ∀ a, (f a).run.Asks test) : (x >>= f).run.Asks test := by
  refine Asks.bind hx fun r => ?_
  cases r with
  | ok a => exact hf a
  | error e => trivial

/-! ## States -/

/-- With all surroundings of a conduct, every question comes in a state in which it may be asked,
and a dialogue that does not panic ends with an answer and in a state as it should. -/
def Keeps (conduct : Conduct Q σ) (may : Q → σ → Prop) (post : α → σ → Prop) :
    Dialogue Q α → σ → Prop
  | done a, s => post a s
  | panic, _ => True
  | ask q next, s => may q s ∧ ∀ r s', conduct q s r s' → Keeps conduct may post (next r) s'

variable {conduct : Conduct Q σ} {may : Q → σ → Prop} {s : σ}

theorem Keeps.mono {post post' : α → σ → Prop} {d : Dialogue Q α}
    (h : d.Keeps conduct may post s) (hp : ∀ a s, post a s → post' a s) :
    d.Keeps conduct may post' s := by
  induction d generalizing s with
  | done a => exact hp a s h
  | panic => trivial
  | ask q next ih => exact ⟨h.1, fun r s' hc => ih r (h.2 r s' hc)⟩

theorem Keeps.bind {post : β → σ → Prop} {d : Dialogue Q α} {f : α → Dialogue Q β}
    (h : d.Keeps conduct may (fun a s => (f a).Keeps conduct may post s) s) :
    (d.bind f).Keeps conduct may post s := by
  induction d generalizing s with
  | done a => exact h
  | panic => trivial
  | ask q next ih => exact ⟨h.1, fun r s' hc => ih r (h.2 r s' hc)⟩

theorem keeps_call {q : Q} {post : Answer q → σ → Prop} (hm : may q s)
    (hp : ∀ a s', conduct q s (.answer a) s' → post a s') :
    (call q).Keeps conduct may post s := by
  refine ⟨hm, fun r s' hc => ?_⟩
  cases r with
  | answer a => exact hp a s' hc
  | panic => trivial

/-- A dialogue of questions that may always be asked and change nothing ends in the state in which
it began. -/
theorem Asks.keeps {d : Dialogue Q α} (hd : d.Asks test) (hm : ∀ q s, test q → may q s)
    (hc : ∀ q s r s', test q → conduct q s r s' → s' = s) :
    d.Keeps conduct may (fun _ s' => s' = s) s := by
  induction d with
  | done a => rfl
  | panic => trivial
  | ask q next ih =>
    refine ⟨hm q s hd.1, fun r s' h => ?_⟩
    rw [hc q s r s' hd.1 h]
    exact ih r (hd.2 r)

/-- A dialogue that may fail, after one that changes nothing. -/
theorem Asks.keeps_bind {ε : Type} {x : ExceptT ε (Dialogue Q) α}
    {f : α → ExceptT ε (Dialogue Q) β} {post : Except ε β → σ → Prop} (hx : x.run.Asks test)
    (hm : ∀ q s, test q → may q s) (hc : ∀ q s r s', test q → conduct q s r s' → s' = s)
    (hf : ∀ a, (f a).run.Keeps conduct may post s) (he : ∀ e, post (.error e) s) :
    (x >>= f).run.Keeps conduct may post s := by
  refine Keeps.bind ((hx.keeps hm hc).mono fun r s' hs => ?_)
  subst hs
  cases r with
  | ok a => exact hf a
  | error e => exact he e

/-! ## Refinement -/

theorem settled_bind_unsettle (d : Dialogue Q α) : d.settled.bind unsettle = d := by
  induction d with
  | done | panic => rfl
  | ask q next ih => exact congrArg (ask q) (funext ih)

theorem settled_call_bind (q : Q) (f : Reply (Answer q) → Dialogue Q β) :
    (call q).settled.bind f = ask q f := by
  refine congrArg (ask q) (funext fun r => ?_)
  cases r <;> rfl

theorem settled_settled_bind (d : Dialogue Q α) (f : Reply α → Dialogue Q β) :
    (d.settled.bind f).settled = d.settled.bind fun r => (f r).settled := by
  induction d with
  | done | panic => rfl
  | ask q next ih => exact congrArg (ask q) (funext ih)

variable {f : (q : Q) → Dialogue R (Answer q)}

theorem refine_bind (d : Dialogue Q α) (g : α → Dialogue Q β) :
    (d.bind g).refine f = (d.refine f).bind fun a => (g a).refine f := by
  induction d with
  | done | panic => rfl
  | ask q next ih =>
    rw [ask_bind, refine, refine, bind_assoc]
    exact congrArg _ (funext ih)

theorem refine_call (q : Q) : (call q).refine f = f q := by
  rw [call, refine]
  refine (congrArg _ (funext fun r => ?_)).trans (settled_bind_unsettle (f q))
  cases r <;> rfl

theorem refine_settled (d : Dialogue Q α) : d.settled.refine f = (d.refine f).settled := by
  induction d with
  | done | panic => rfl
  | ask q next ih =>
    rw [settled, refine, refine, settled_settled_bind]
    exact congrArg _ (funext ih)

theorem refine_refine (d : Dialogue Q α) {g : (q : R) → Dialogue P (Answer q)} :
    (d.refine f).refine g = d.refine fun q => (f q).refine g := by
  induction d with
  | done | panic => rfl
  | ask q next ih =>
    rw [refine, refine, refine_bind, refine_settled]
    exact congrArg _ (funext ih)

end Dialogue

end Sheltering
