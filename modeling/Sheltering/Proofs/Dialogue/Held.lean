import Sheltering.Proofs.Dialogue.Conduct

/-!
# Dialogues that were held

* `Dialogue.Held`: the exchanges and the end that a dialogue may come to.
* `Dialogue.run_held`: a run comes to one of them.
* `Dialogue.Held.bind_inv`, `Dialogue.Held.run_bind_inv`: a dialogue of two parts was held part by
  part.
* `Dialogue.Settles`: a dialogue that ends with an answer if all replies are sane.
* `Dialogue.Yields`: every answer that a dialogue may end with passes a test.
* `Dialogue.Asks.run_state`, `Dialogue.Asks.alike`: what a run does to the state, and when two runs
  go alike, from what every question does.
-/

namespace Sheltering.Dialogue

variable {Q σ α β ε : Type} [Question Q]

/-- A dialogue may have some exchanges and then an end. -/
def Held : Dialogue Q α → List (Exchange Q) → Reply α → Prop
  | done a, es, ending => es = [] ∧ ending = .answer a
  | panic, es, ending => es = [] ∧ ending = .panic
  | ask q next, es, ending => ∃ r later, es = ⟨q, r⟩ :: later ∧ (next r).Held later ending

theorem run_held (world : Surroundings Q σ) (d : Dialogue Q α) (s : σ) :
    d.Held (run world d s).exchanges (run world d s).ending := by
  induction d generalizing s with
  | done | panic => exact ⟨rfl, rfl⟩
  | ask q next ih => exact ⟨_, _, rfl, ih _ _⟩

variable {es : List (Exchange Q)} {d : Dialogue Q α}

theorem held_call {q : Q} {ending : Reply (Answer q)} (h : (call q).Held es ending) :
    es = [⟨q, ending⟩] := by
  obtain ⟨r, later, rfl, h⟩ := h
  cases r with
  | answer a =>
    obtain ⟨rfl, rfl⟩ := h
    rfl
  | panic =>
    obtain ⟨rfl, rfl⟩ := h
    rfl

/-- The second part was held after the first, unless that panicked. -/
theorem Held.bind_inv {f : α → Dialogue Q β} {ending : Reply β} (h : (d.bind f).Held es ending) :
    (∃ a es₁ es₂, es = es₁ ++ es₂ ∧ d.Held es₁ (.answer a) ∧ (f a).Held es₂ ending) ∨
      (d.Held es .panic ∧ ending = .panic) := by
  induction d generalizing es with
  | done a => exact .inl ⟨a, [], es, rfl, ⟨rfl, rfl⟩, h⟩
  | panic => exact .inr ⟨⟨h.1, rfl⟩, h.2⟩
  | ask q next ih =>
    obtain ⟨r, later, rfl, h⟩ := h
    obtain ⟨a, es₁, es₂, rfl, h₁, h₂⟩ | ⟨h, he⟩ := ih r h
    · exact .inl ⟨a, ⟨q, r⟩ :: es₁, es₂, rfl, ⟨r, es₁, rfl, h₁⟩, h₂⟩
    · exact .inr ⟨⟨r, later, rfl, h⟩, he⟩

/-- The second part was held after the first, unless that failed or panicked. -/
theorem Held.run_bind_inv {x : ExceptT ε (Dialogue Q) α} {f : α → ExceptT ε (Dialogue Q) β}
    {ending : Reply (Except ε β)} (h : (x >>= f).run.Held es ending) :
    (∃ a es₁ es₂, es = es₁ ++ es₂ ∧ x.run.Held es₁ (.answer (.ok a)) ∧
      (f a).run.Held es₂ ending) ∨
    (∃ e, x.run.Held es (.answer (.error e)) ∧ ending = .answer (.error e)) ∨
    (x.run.Held es .panic ∧ ending = .panic) := by
  obtain ⟨r, es₁, es₂, rfl, h₁, h₂⟩ | h := Held.bind_inv h
  · cases r with
    | ok a => exact .inl ⟨a, es₁, es₂, rfl, h₁, h₂⟩
    | error e =>
      obtain ⟨rfl, rfl⟩ := h₂
      rw [List.append_nil]
      exact .inr (.inl ⟨e, h₁, rfl⟩)
  · exact .inr (.inr h)

/-- The second part was held after the first, unless that panicked. It has no faults of its own. -/
theorem Held.lift_bind_inv {f : α → ExceptT ε (Dialogue Q) β} {ending : Reply (Except ε β)}
    (h : (ExceptT.lift d >>= f).run.Held es ending) :
    (∃ a es₁ es₂, es = es₁ ++ es₂ ∧ d.Held es₁ (.answer a) ∧ (f a).run.Held es₂ ending) ∨
      (d.Held es .panic ∧ ending = .panic) := by
  obtain ⟨a, es₁, es₂, rfl, h₁, h₂⟩ | ⟨e, h₁, rfl⟩ | ⟨h₁, rfl⟩ := Held.run_bind_inv h
  · obtain ⟨a', es₃, es₄, rfl, h₃, rfl, he⟩ | ⟨-, he⟩ := Held.bind_inv h₁ <;> cases he
    rw [List.append_nil]
    exact .inl ⟨a, es₃, es₂, rfl, h₃, h₂⟩
  · obtain ⟨a', es₃, es₄, rfl, h₃, -, he⟩ | ⟨-, he⟩ := Held.bind_inv h₁ <;> cases he
  · obtain ⟨a', es₃, es₄, rfl, h₃, -, he⟩ | ⟨h₃, -⟩ := Held.bind_inv h₁
    · cases he
    · exact .inr ⟨h₃, rfl⟩

theorem Held.settled_inv {ending : Reply (Reply α)} (h : d.settled.Held es ending) :
    ∃ r, ending = .answer r ∧ d.Held es r := by
  induction d generalizing es with
  | done a => exact ⟨.answer a, h.2, h.1, rfl⟩
  | panic => exact ⟨.panic, h.2, h.1, rfl⟩
  | ask q next ih =>
    obtain ⟨r, later, rfl, h⟩ := h
    obtain ⟨ending', he, h⟩ := ih r h
    exact ⟨ending', he, r, later, rfl, h⟩

/-- A dialogue of finer questions, each of which takes one question, was held as the dialogue was.
-/
theorem Held.refine_inv {R : Type} [Question R] {f : (q : Q) → Dialogue R (Answer q)}
    {tag : Exchange Q → Exchange R} {es : List (Exchange R)} {ending : Reply α}
    (h : (d.refine f).Held es ending)
    (hf : ∀ {q es r}, (f q).Held es r → es = [tag ⟨q, r⟩]) :
    ∃ es', es = es'.map tag ∧ d.Held es' ending := by
  induction d generalizing es with
  | done a =>
    obtain ⟨rfl, he⟩ := h
    exact ⟨[], rfl, rfl, he⟩
  | panic =>
    obtain ⟨rfl, he⟩ := h
    exact ⟨[], rfl, rfl, he⟩
  | ask q next ih =>
    obtain ⟨r, es₁, es₂, rfl, h₁, h₂⟩ | ⟨h₁, -⟩ := Held.bind_inv h
    · obtain ⟨r', he, h₁⟩ := Held.settled_inv h₁
      cases he
      obtain ⟨es', rfl, h'⟩ := ih r h₂
      exact ⟨⟨q, r⟩ :: es', congrArg (· ++ es'.map tag) (hf h₁), r, es', rfl, h'⟩
    · obtain ⟨_, he, -⟩ := Held.settled_inv h₁
      cases he

/-- What a dialogue asks passes the test of its questions. -/
theorem Asks.held {test : Q → Prop} {ending : Reply α} (hd : d.Asks test) (h : d.Held es ending) :
    ∀ e ∈ es, test e.question := by
  induction d generalizing es with
  | done | panic =>
    obtain ⟨rfl, -⟩ := h
    exact fun e he => nomatch he
  | ask q next ih =>
    obtain ⟨r, later, rfl, h⟩ := h
    exact List.forall_mem_cons.mpr ⟨hd.1, ih r (hd.2 r) h⟩

/-! ## Ends -/

/-- The dialogue ends with an answer if all exchanges are sane. -/
def Settles (sane : Exchange Q → Prop) : Dialogue Q α → Prop
  | done _ => True
  | panic => False
  | ask q next => ∀ r, sane ⟨q, r⟩ → (next r).Settles sane

variable {sane : Exchange Q → Prop}

theorem Settles.held {ending : Reply α} (hd : d.Settles sane) (h : d.Held es ending)
    (hs : ∀ e ∈ es, sane e) : ∃ a, ending = .answer a := by
  induction d generalizing es with
  | done a => exact ⟨a, h.2⟩
  | panic => exact hd.elim
  | ask q next ih =>
    obtain ⟨r, later, rfl, h⟩ := h
    obtain ⟨hr, hs⟩ := List.forall_mem_cons.mp hs
    exact ih r (hd r hr) h hs

theorem settles_call {q : Q} (h : ¬ sane ⟨q, .panic⟩) : (call q).Settles sane := by
  intro r hr
  cases r with
  | answer a => trivial
  | panic => exact h hr

theorem Settles.bind {f : α → Dialogue Q β} (hd : d.Settles sane)
    (hf : ∀ a, (f a).Settles sane) : (d.bind f).Settles sane := by
  induction d with
  | done a => exact hf a
  | panic => exact hd.elim
  | ask q next ih => exact fun r hr => ih r (hd r hr)

theorem Settles.run_bind {x : ExceptT ε (Dialogue Q) α} {f : α → ExceptT ε (Dialogue Q) β}
    (hx : x.run.Settles sane) (hf : ∀ a, (f a).run.Settles sane) :
    (x >>= f).run.Settles sane := by
  refine Settles.bind hx fun r => ?_
  cases r with
  | ok a => exact hf a
  | error e => trivial

/-! ## Answers -/

/-- Every answer that the dialogue may end with passes a test. -/
def Yields (post : α → Prop) : Dialogue Q α → Prop
  | done a => post a
  | panic => True
  | ask _ next => ∀ r, (next r).Yields post

theorem Yields.held {post : α → Prop} {a : α} (hd : d.Yields post) (h : d.Held es (.answer a)) :
    post a := by
  induction d generalizing es with
  | done a' =>
    obtain ⟨-, he⟩ := h
    cases he
    exact hd
  | panic => cases h.2
  | ask q next ih =>
    obtain ⟨r, later, -, h⟩ := h
    exact ih r (hd r) h

theorem Yields.bind {post : β → Prop} {f : α → Dialogue Q β} (hf : ∀ a, (f a).Yields post) :
    (d.bind f).Yields post := by
  induction d with
  | done a => exact hf a
  | panic => trivial
  | ask q next ih => exact fun r => ih r

theorem Yields.run_bind {post : Except ε β → Prop} {x : ExceptT ε (Dialogue Q) α}
    {f : α → ExceptT ε (Dialogue Q) β} (he : ∀ e, post (.error e))
    (hf : ∀ a, (f a).run.Yields post) : (x >>= f).run.Yields post := by
  refine Yields.bind fun r => ?_
  cases r with
  | ok a => exact hf a
  | error e => exact he e

/-! ## Runs -/

/-- What holds of the exchange of every question holds of all exchanges of a run. -/
theorem Asks.run_exchanges {test : Q → Prop} {world : Surroundings Q σ} {good : Exchange Q → Prop}
    {s : σ} (hd : d.Asks test) (step : ∀ q s, test q → good ⟨q, (world q s).1⟩) :
    ∀ e ∈ (run world d s).exchanges, good e := by
  induction d generalizing s with
  | done | panic => exact fun e he => nomatch he
  | ask q next ih => exact List.forall_mem_cons.mpr ⟨step q s hd.1, ih _ (hd.2 _)⟩

/-- The second part is held after the first, where that left the surroundings. -/
theorem run_bind_of_answer {world : Surroundings Q σ} {f : α → Dialogue Q β} {s : σ} {a : α}
    (h : (run world d s).ending = .answer a) : run world (d.bind f) s =
      let second := run world (f a) (run world d s).state
      { second with exchanges := (run world d s).exchanges ++ second.exchanges } := by
  rw [run_bind]
  simp only [h]

theorem run_bind_of_ok {world : Surroundings Q σ} {x : ExceptT ε (Dialogue Q) α}
    {f : α → ExceptT ε (Dialogue Q) β} {s : σ} {a : α}
    (h : (run world x.run s).ending = .answer (.ok a)) : run world (x >>= f).run s =
      let second := run world (f a).run (run world x.run s).state
      { second with exchanges := (run world x.run s).exchanges ++ second.exchanges } :=
  run_bind_of_answer h

theorem run_bind_of_error {world : Surroundings Q σ} {x : ExceptT ε (Dialogue Q) α}
    {f : α → ExceptT ε (Dialogue Q) β} {s : σ} {e : ε}
    (h : (run world x.run s).ending = .answer (.error e)) : run world (x >>= f).run s =
      ⟨(run world x.run s).exchanges, .answer (.error e), (run world x.run s).state⟩ := by
  refine (run_bind_of_answer h).trans ?_
  simp [ExceptT.bindCont]

/-- Nothing is held after a dialogue that panicked. -/
theorem run_bind_of_panic {world : Surroundings Q σ} {f : α → Dialogue Q β} {s : σ}
    (h : (run world d s).ending = .panic) : run world (d.bind f) s =
      ⟨(run world d s).exchanges, .panic, (run world d s).state⟩ := by
  rw [run_bind]
  simp only [h]

theorem lift_bind_run (d : Dialogue Q α) (f : α → ExceptT ε (Dialogue Q) β) :
    (ExceptT.lift d >>= f).run = d.bind fun a => (f a).run :=
  bind_assoc d _ _

theorem run_lift_bind_of_answer {world : Surroundings Q σ} {f : α → ExceptT ε (Dialogue Q) β}
    {s : σ} {a : α} (h : (run world d s).ending = .answer a) :
    run world (ExceptT.lift d >>= f).run s =
      let second := run world (f a).run (run world d s).state
      { second with exchanges := (run world d s).exchanges ++ second.exchanges } := by
  rw [lift_bind_run]
  exact run_bind_of_answer h

/-- What every question keeps of the state, the run keeps. -/
theorem Asks.run_state {test : Q → Prop} {world : Surroundings Q σ} {p : σ → Prop} {s : σ}
    (hd : d.Asks test) (step : ∀ q s, test q → p s → p (world q s).2) (h : p s) :
    p (run world d s).state := by
  induction d generalizing s with
  | done | panic => exact h
  | ask q next ih => exact ih _ (hd.2 _) (step q s hd.1 h)

/-- The runs have the same exchanges and the same end, and the states after them are related. -/
structure Alike {τ : Type} (rel : σ → τ → Prop) (a : Run Q σ α) (b : Run Q τ α) : Prop where
  exchanges : a.exchanges = b.exchanges
  ending : a.ending = b.ending
  state : rel a.state b.state

/-- A dialogue goes alike with two surroundings if every question does. -/
theorem Asks.alike {τ : Type} {test : Q → Prop} {world : Surroundings Q σ}
    {world' : Surroundings Q τ} {rel : σ → τ → Prop} {s : σ} {s' : τ} (hd : d.Asks test)
    (step : ∀ q s s', test q → rel s s' →
      (world q s).1 = (world' q s').1 ∧ rel (world q s).2 (world' q s').2)
    (h : rel s s') : Alike rel (run world d s) (run world' d s') := by
  induction d generalizing s s' with
  | done | panic => exact ⟨rfl, rfl, h⟩
  | ask q next ih =>
    obtain ⟨hreply, hrel⟩ := step q s s' hd.1 h
    have hnext := ih (world q s).1 (hd.2 _) hrel
    rw [run, run]
    dsimp only
    rw [← hreply]
    exact ⟨congrArg _ hnext.exchanges, hnext.ending, hnext.state⟩

end Sheltering.Dialogue
