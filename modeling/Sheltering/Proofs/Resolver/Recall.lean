import Sheltering.Proofs.Backoff
import Sheltering.Proofs.Dialogue.Beats
import Sheltering.Resolver.Query

/-!
# A memory of failures and its clock

* `Recall.conduct`: the surroundings of a resolver that remembers its failures. Its clock does not
  go back; what others reply is left open.
* `Recall.Later`: time passes, and no window is opened or closed by anything else.
* `Recall.later_of_conduct`: only a failure that is remembered opens a window.
* `Recall.open_of_remember`: the window that it opens.
-/

namespace Sheltering

open Dialogue (Exchange)

/-- A memory of failures, and what its clock showed last. -/
structure Recall where
  backoff : Backoff := .empty
  now : Instant
  readable : now.Readable

namespace Query

/-- A retry timeout is not negative. -/
def Fair : Exchange Query → Prop
  | ⟨retryTimeout, .answer ttl⟩ => 0 ≤ Span.nanos ttl
  | _ => True

/-- The question opens no backoff window. -/
def IsCalm : Query → Prop
  | remember _ _ => False
  | _ => True

end Query

namespace Recall

open Backoff (Open)

/-- The memory answers at the reading of its clock, which may move on before every question but
does not go back. All others may answer in any way, but a retry timeout is not negative. -/
def conduct : Conduct Query Recall := fun q m r m' =>
  m.now ≤ m'.now ∧
    match m.backoff.reply m'.now q with
    | some (a, backoff) => r = .answer a ∧ m'.backoff = backoff
    | none => m'.backoff = m.backoff ∧ Query.Fair ⟨q, r⟩

/-- Time passes, and the windows that are open then or later are the same. -/
structure Later (m m' : Recall) : Prop where
  le : m.now ≤ m'.now
  windows : ∀ id t, m'.now ≤ t → (m'.backoff.Open id t ↔ m.backoff.Open id t)

variable {m m' m₁ m₂ m₃ : Recall} {q : Query} {id : String} {ttl : Span} {t : Instant}

theorem later_refl (m : Recall) : Later m m :=
  ⟨Instant.le_refl _, fun _ _ _ => Iff.rfl⟩

theorem Later.trans (h₁ : Later m₁ m₂) (h₂ : Later m₂ m₃) : Later m₁ m₃ :=
  ⟨Instant.le_trans h₁.le h₂.le, fun id t ht =>
    (h₂.windows id t ht).trans (h₁.windows id t (Instant.le_trans h₂.le ht))⟩

theorem later_of_conduct {r : Reply (Answer q)} (h : conduct q m r m') (hq : q.IsCalm) :
    Later m m' := by
  obtain ⟨hle, h⟩ := h
  refine ⟨hle, fun id t ht => ?_⟩
  cases q with
  | remember => exact hq.elim
  | isSuppressed id' =>
    have hb : m'.backoff = (m.backoff.lookup id' m'.now).2 := h.2
    rw [hb, Backoff.open_lookup ht]
  | sweep =>
    have hb : m'.backoff = (m.backoff.sweep m'.now).2 := h.2
    rw [hb, Backoff.open_sweep ht]
  | _ => rw [h.1]

/-- A lookup tells whether the window is open. -/
theorem reply_of_isSuppressed {r : Reply (Answer (Query.isSuppressed id))}
    (h : conduct (.isSuppressed id) m r m') :
    r = .answer (decide (m.backoff.Open id m'.now)) :=
  h.2.1.trans (congrArg Reply.answer Backoff.lookup_eq)

/-- The window of a failure is open for the retry timeout, up to the end of the calendar. -/
theorem open_of_remember {r : Reply (Answer (Query.remember id ttl))}
    (h : conduct (.remember id ttl) m r m') (hd : 0 ≤ ttl.nanos) (id' : String) (t : Instant) :
    m'.backoff.Open id' t ↔
      if id' = id then t < min (m'.now.add ttl) Instant.last else m.backoff.Open id' t := by
  have hb : m'.backoff = m.backoff.remember id ttl m'.now := h.2.2
  rw [hb, Backoff.open_remember, Backoff.lt_expiry_iff m'.readable hd]

/-- Questions that open no window pass the time. -/
theorem later_of_goes {α : Type} {d : Dialogue Query α} {bs : List (Beat Query Recall)}
    {ending : Reply α} (hd : d.Asks Query.IsCalm) (h : d.Goes conduct m bs ending m') :
    Later m m' :=
  hd.goes h later_refl Later.trans fun _ _ _ _ hq hc => later_of_conduct hc hq

end Recall

end Sheltering
