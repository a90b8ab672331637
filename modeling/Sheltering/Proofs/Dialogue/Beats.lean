import Sheltering.Proofs.Dialogue.Held

/-!
# Dialogues with surroundings that have a state

* `Beat`: an exchange, and the state of the surroundings after it.
* `Dialogue.Goes`: how a dialogue may go with surroundings of a conduct.
* `Dialogue.Goes.bind_inv`, `Dialogue.Goes.run_bind_inv`: a dialogue of two parts goes part by part.
  `Dialogue.Goes.run_map_inv`: the second part only changes the result.
* `Dialogue.Goes.settled_cons_inv`: dialogues one after the other go one by one.
* `Dialogue.Path`: the states that the beats go through; `Dialogue.Path.rel`,
  `Dialogue.Path.between`: what they do to the state, from what every beat does.
* `Dialogue.Keeps.goes`: a dialogue ends as it should.
* `Dialogue.beats`, `Dialogue.goes_beats`: how it goes with deterministic surroundings.
-/

namespace Sheltering

/-- An exchange, and the state of the surroundings after it. -/
structure Beat (Q : Type) [Question Q] (σ : Type) where
  exchange : Dialogue.Exchange Q
  after : σ

namespace Dialogue

variable {Q R σ α β ε : Type} [Question Q] [Question R] {conduct : Conduct Q σ}

/-- With surroundings of a conduct in a state, a dialogue may have some beats, and then an end and a
last state. -/
def Goes (conduct : Conduct Q σ) : Dialogue Q α → σ → List (Beat Q σ) → Reply α → σ → Prop
  | done a, s, bs, ending, s' => bs = [] ∧ ending = .answer a ∧ s' = s
  | panic, s, bs, ending, s' => bs = [] ∧ ending = .panic ∧ s' = s
  | ask q next, s, bs, ending, s' => ∃ r s₁ later, bs = ⟨⟨q, r⟩, s₁⟩ :: later ∧
      conduct q s r s₁ ∧ (next r).Goes conduct s₁ later ending s'

variable {d : Dialogue Q α} {s s' : σ} {bs : List (Beat Q σ)}

theorem goes_call {q : Q} {ending : Reply (Answer q)} (h : (call q).Goes conduct s bs ending s') :
    bs = [⟨⟨q, ending⟩, s'⟩] ∧ conduct q s ending s' := by
  obtain ⟨r, s₁, later, rfl, hc, h⟩ := h
  cases r with
  | answer a =>
    obtain ⟨rfl, rfl, rfl⟩ := h
    exact ⟨rfl, hc⟩
  | panic =>
    obtain ⟨rfl, rfl, rfl⟩ := h
    exact ⟨rfl, hc⟩

/-- Without the states, the dialogue was held. -/
theorem Goes.held {ending : Reply α} (h : d.Goes conduct s bs ending s') :
    d.Held (bs.map (·.exchange)) ending := by
  induction d generalizing s bs with
  | done a =>
    obtain ⟨rfl, rfl, -⟩ := h
    exact ⟨rfl, rfl⟩
  | panic =>
    obtain ⟨rfl, rfl, -⟩ := h
    exact ⟨rfl, rfl⟩
  | ask q next ih =>
    obtain ⟨r, s₁, later, rfl, -, h⟩ := h
    exact ⟨r, later.map (·.exchange), rfl, ih r h⟩

/-! ## Dialogues of two parts -/

/-- The second part goes after the first, unless that panics. -/
theorem Goes.bind_inv {f : α → Dialogue Q β} {ending : Reply β}
    (h : (d.bind f).Goes conduct s bs ending s') :
    (∃ a bs₁ s₁ bs₂, bs = bs₁ ++ bs₂ ∧ d.Goes conduct s bs₁ (.answer a) s₁ ∧
      (f a).Goes conduct s₁ bs₂ ending s') ∨
    (d.Goes conduct s bs .panic s' ∧ ending = .panic) := by
  induction d generalizing s bs with
  | done a => exact .inl ⟨a, [], s, bs, rfl, ⟨rfl, rfl, rfl⟩, h⟩
  | panic =>
    obtain ⟨rfl, rfl, rfl⟩ := h
    exact .inr ⟨⟨rfl, rfl, rfl⟩, rfl⟩
  | ask q next ih =>
    obtain ⟨r, s₁, later, rfl, hc, h⟩ := h
    obtain ⟨a, bs₁, s₂, bs₂, rfl, h₁, h₂⟩ | ⟨h, he⟩ := ih r h
    · exact .inl ⟨a, ⟨⟨q, r⟩, s₁⟩ :: bs₁, s₂, bs₂, rfl, ⟨r, s₁, bs₁, rfl, hc, h₁⟩, h₂⟩
    · exact .inr ⟨⟨r, s₁, later, rfl, hc, h⟩, he⟩

/-- The second part goes after the first, unless that fails or panics. -/
theorem Goes.run_bind_inv {x : ExceptT ε (Dialogue Q) α} {f : α → ExceptT ε (Dialogue Q) β}
    {ending : Reply (Except ε β)} (h : (x >>= f).run.Goes conduct s bs ending s') :
    (∃ a bs₁ s₁ bs₂, bs = bs₁ ++ bs₂ ∧ x.run.Goes conduct s bs₁ (.answer (.ok a)) s₁ ∧
      (f a).run.Goes conduct s₁ bs₂ ending s') ∨
    (∃ e, x.run.Goes conduct s bs (.answer (.error e)) s' ∧ ending = .answer (.error e)) ∨
    (x.run.Goes conduct s bs .panic s' ∧ ending = .panic) := by
  obtain ⟨r, bs₁, s₁, bs₂, rfl, h₁, h₂⟩ | h := Goes.bind_inv h
  · cases r with
    | ok a => exact .inl ⟨a, bs₁, s₁, bs₂, rfl, h₁, h₂⟩
    | error e =>
      obtain ⟨rfl, rfl, rfl⟩ := h₂
      rw [List.append_nil]
      exact .inr (.inl ⟨e, h₁, rfl⟩)
  · exact .inr (.inr h)

/-- A dialogue whose result is changed goes as it does without that. -/
theorem Goes.run_map_inv {x : ExceptT ε (Dialogue Q) α} {f : α → β} {ending : Reply (Except ε β)}
    (h : (x >>= fun a => pure (f a)).run.Goes conduct s bs ending s') :
    ∃ r, x.run.Goes conduct s bs r s' ∧ ending = r.map (·.map f) := by
  obtain ⟨a, bs₁, s₁, bs₂, rfl, h₁, rfl, rfl, rfl⟩ | ⟨e, h₁, rfl⟩ | ⟨h₁, rfl⟩ := Goes.run_bind_inv h
  · rw [List.append_nil]
    exact ⟨.answer (.ok a), h₁, rfl⟩
  · exact ⟨.answer (.error e), h₁, rfl⟩
  · exact ⟨.panic, h₁, rfl⟩

/-- The second part goes after the first, unless that panics. It has no faults of its own. -/
theorem Goes.lift_bind_inv {f : α → ExceptT ε (Dialogue Q) β} {ending : Reply (Except ε β)}
    (h : (ExceptT.lift d >>= f).run.Goes conduct s bs ending s') :
    (∃ a bs₁ s₁ bs₂, bs = bs₁ ++ bs₂ ∧ d.Goes conduct s bs₁ (.answer a) s₁ ∧
      (f a).run.Goes conduct s₁ bs₂ ending s') ∨
    (d.Goes conduct s bs .panic s' ∧ ending = .panic) := by
  obtain ⟨a, bs₁, s₁, bs₂, rfl, h₁, h₂⟩ | ⟨e, h₁, rfl⟩ | ⟨h₁, rfl⟩ := Goes.run_bind_inv h
  · obtain ⟨a', bs₃, s₃, bs₄, rfl, h₃, rfl, he, rfl⟩ | ⟨-, he⟩ := Goes.bind_inv h₁ <;> cases he
    rw [List.append_nil]
    exact .inl ⟨a, bs₃, s₁, bs₂, rfl, h₃, h₂⟩
  · obtain ⟨a', bs₃, s₃, bs₄, rfl, h₃, -, he, -⟩ | ⟨-, he⟩ := Goes.bind_inv h₁ <;> cases he
  · obtain ⟨a', bs₃, s₃, bs₄, rfl, h₃, -, he, -⟩ | ⟨h₃, -⟩ := Goes.bind_inv h₁
    · cases he
    · exact .inr ⟨h₃, rfl⟩

theorem Goes.settled_inv {ending : Reply (Reply α)} (h : d.settled.Goes conduct s bs ending s') :
    ∃ r, ending = .answer r ∧ d.Goes conduct s bs r s' := by
  induction d generalizing s bs with
  | done a =>
    obtain ⟨rfl, rfl, rfl⟩ := h
    exact ⟨.answer a, rfl, rfl, rfl, rfl⟩
  | panic =>
    obtain ⟨rfl, rfl, rfl⟩ := h
    exact ⟨.panic, rfl, rfl, rfl, rfl⟩
  | ask q next ih =>
    obtain ⟨r, s₁, later, rfl, hc, h⟩ := h
    obtain ⟨ending', he, h⟩ := ih r h
    exact ⟨ending', he, r, s₁, later, rfl, hc, h⟩

/-- Dialogues one after the other go one by one, however each of them ends. -/
theorem Goes.settled_cons_inv {rest : Dialogue Q (List (Reply α))}
    {ending : Reply (List (Reply α))}
    (h : (d.settled.bind fun r => rest.bind fun rs => done (r :: rs)).Goes conduct s bs ending s') :
    ∃ r bs₁ s₁ bs₂ endings, bs = bs₁ ++ bs₂ ∧ d.Goes conduct s bs₁ r s₁ ∧
      rest.Goes conduct s₁ bs₂ endings s' ∧ ending = endings.map (r :: ·) := by
  obtain ⟨r, bs₁, s₁, bs₂, rfl, h₁, h₂⟩ | ⟨h₁, -⟩ := Goes.bind_inv h
  · obtain ⟨r', he, h₁⟩ := Goes.settled_inv h₁
    cases he
    obtain ⟨rs, bs₃, s₂, bs₄, rfl, h₃, rfl, rfl, rfl⟩ | ⟨h₃, rfl⟩ := Goes.bind_inv h₂
    · rw [List.append_nil]
      exact ⟨r, bs₁, s₁, bs₃, .answer rs, rfl, h₁, h₃, rfl⟩
    · exact ⟨r, bs₁, s₁, bs₂, .panic, rfl, h₁, h₃, rfl⟩
  · obtain ⟨r', he, -⟩ := Goes.settled_inv h₁
    cases he

/-! ## Paths -/

/-- The beats lead from one state to another, each as a step of the conduct. -/
def Path (conduct : Conduct Q σ) : σ → List (Beat Q σ) → σ → Prop
  | s, [], s' => s' = s
  | s, b :: bs, s' =>
    conduct b.exchange.question s b.exchange.reply b.after ∧ Path conduct b.after bs s'

theorem Goes.path {ending : Reply α} (h : d.Goes conduct s bs ending s') :
    Path conduct s bs s' := by
  induction d generalizing s bs with
  | done a =>
    obtain ⟨rfl, -, rfl⟩ := h
    rfl
  | panic =>
    obtain ⟨rfl, -, rfl⟩ := h
    rfl
  | ask q next ih =>
    obtain ⟨r, s₁, later, rfl, hc, h⟩ := h
    exact ⟨hc, ih r h⟩

theorem path_append {bs₁ bs₂ : List (Beat Q σ)} :
    Path conduct s (bs₁ ++ bs₂) s' ↔ ∃ s₁, Path conduct s bs₁ s₁ ∧ Path conduct s₁ bs₂ s' := by
  induction bs₁ generalizing s with
  | nil => exact ⟨fun h => ⟨s, rfl, h⟩, fun ⟨_, rfl, h⟩ => h⟩
  | cons b bs₁ ih =>
    constructor
    · rintro ⟨hc, h⟩
      obtain ⟨s₁, h₁, h₂⟩ := ih.mp h
      exact ⟨s₁, ⟨hc, h₁⟩, h₂⟩
    · rintro ⟨s₁, ⟨hc, h₁⟩, h₂⟩
      exact ⟨hc, ih.mpr ⟨s₁, h₁, h₂⟩⟩

/-- What every beat does to the state, the path does. -/
theorem Path.rel (test : Q → Prop) {rel : σ → σ → Prop} (h : Path conduct s bs s')
    (hbs : ∀ b ∈ bs, test b.exchange.question) (refl : ∀ s, rel s s)
    (trans : ∀ {s₁ s₂ s₃}, rel s₁ s₂ → rel s₂ s₃ → rel s₁ s₃)
    (step : ∀ q s r s', test q → conduct q s r s' → rel s s') : rel s s' := by
  induction bs generalizing s with
  | nil => exact h ▸ refl s
  | cons b bs ih =>
    obtain ⟨hb, hbs⟩ := List.forall_mem_cons.mp hbs
    exact trans (step _ s _ _ hb h.1) (ih h.2 hbs)

/-- Every beat is a step after the first state and before the last. -/
theorem Path.between {rel : σ → σ → Prop} (h : Path conduct s bs s') (refl : ∀ s, rel s s)
    (trans : ∀ {s₁ s₂ s₃}, rel s₁ s₂ → rel s₂ s₃ → rel s₁ s₃)
    (step : ∀ q s r s', conduct q s r s' → rel s s') :
    rel s s' ∧ ∀ b ∈ bs, ∃ before, rel s before ∧ rel b.after s' ∧
      conduct b.exchange.question before b.exchange.reply b.after := by
  have hrel : ∀ {s bs s'}, Path conduct s bs s' → rel s s' := fun h =>
    h.rel (fun _ => True) (fun _ _ => trivial) refl trans fun q s r s' _ => step q s r s'
  refine ⟨hrel h, fun b hb => ?_⟩
  obtain ⟨bs₁, bs₂, rfl⟩ := List.append_of_mem hb
  obtain ⟨before, h₁, hc, h₂⟩ := path_append.mp h
  exact ⟨before, hrel h₁, hrel h₂, hc⟩

/-- What every question does to the state, a dialogue of such questions does. -/
theorem Asks.goes {test : Q → Prop} {rel : σ → σ → Prop} {ending : Reply α} (hd : d.Asks test)
    (h : d.Goes conduct s bs ending s') (refl : ∀ s, rel s s)
    (trans : ∀ {s₁ s₂ s₃}, rel s₁ s₂ → rel s₂ s₃ → rel s₁ s₃)
    (step : ∀ q s r s', test q → conduct q s r s' → rel s s') : rel s s' :=
  h.path.rel test (fun b hb => hd.held h.held b.exchange (List.mem_map_of_mem hb)) refl trans step

theorem Keeps.goes {may : Q → σ → Prop} {post : α → σ → Prop} {a : α}
    (hd : d.Keeps conduct may post s) (h : d.Goes conduct s bs (.answer a) s') : post a s' := by
  induction d generalizing s bs with
  | done a' =>
    obtain ⟨-, he, rfl⟩ := h
    cases he
    exact hd
  | panic => cases h.2.1
  | ask q next ih =>
    obtain ⟨r, s₁, later, -, hc, h⟩ := h
    exact ih r (hd.2 r s₁ hc) h

/-! ## Deterministic surroundings -/

/-- The beats of a dialogue with deterministic surroundings. -/
def beats (world : Surroundings Q σ) : Dialogue Q α → σ → List (Beat Q σ)
  | done _, _ => []
  | panic, _ => []
  | ask q next, s =>
    let (r, s) := world q s
    ⟨⟨q, r⟩, s⟩ :: beats world (next r) s

/-- With surroundings that keep to a conduct a dialogue goes as it is run. -/
theorem goes_beats {world : Surroundings Q σ} (h : ∀ q s, conduct q s (world q s).1 (world q s).2)
    (d : Dialogue Q α) (s : σ) :
    d.Goes conduct s (beats world d s) (run world d s).ending (run world d s).state := by
  induction d generalizing s with
  | done | panic => exact ⟨rfl, rfl, rfl⟩
  | ask q next ih => exact ⟨_, _, _, rfl, h q s, ih _ _⟩

end Dialogue

end Sheltering
