import Sheltering.Proofs.Tick.Standing

/-!
# Ticks of many processes

Any number of ticks of one node run over one table of leases, step by step and in any order.

* `Fleet.InTime`: no reading of the clock reaches the deadline of a lease while its tick works.
* `Fleet.Inv`: what holds after every moment of such a run.
* `Fleet.Inv.records`: a ledger that records a submission has not recorded its id before.
* `submits_once`: no ledger accepts two submissions of one id.
-/

namespace Sheltering

open Dialogue (ask)

namespace Fleet

variable {node workType : String} {ms : List TickMoment} {s : Site} {f : Nat → Standing}
  {x : Standing}

/-! ## Runs -/

/-- The speaker `k` is the tick of the worker `k` at a place. -/
def Place (workers : List Worker) (node : String) (k : Nat) (x : Standing)
    (d : Dialogue Atom (Except Fault Unit)) : Prop :=
  ∃ w, workers[k]? = some w ∧ Stands node w x d

/-- The ticks before their first steps. -/
def assemble (workers : List Worker) (s : Site) : Assembly Atom Site (Except Fault Unit) :=
  ⟨workers.map Worker.atomicTick, s⟩

theorem stand_start (workers : List Worker) (node : String) (s : Site) :
    (assemble workers s).Stand (Place workers node) fun _ => .opening .reading := by
  intro k d hd
  rw [assemble, List.getElem?_map, Option.map_eq_some_iff] at hd
  obtain ⟨w, hw, rfl⟩ := hd
  refine ⟨w, hw, ?_⟩
  rw [Worker.atomicTick_eq]
  exact .opening .reading

/-- The workers are of one work type, and all their resolvers of one node, up to the case of its
address. -/
def OfNode (workers : List Worker) (node workType : String) : Prop :=
  ∀ w ∈ workers, w.workType = workType ∧
    ∀ subject, sameAddress (w.resolver subject).node node = true

variable {workers : List Worker} {m : TickMoment}

theorem Sound.step (hw : OfNode workers node workType) (hm : m ∈ ms)
    (hl : m.Lawful (Site.conduct node)) (hs : m.before.Stand (Place workers node) f)
    (h : Sound ms node workType m.before.state f) (hlate : Late m.before.state f) :
    ∃ x', m.after.Stand (Place workers node) (moved f m.who x') ∧
      Sound ms node workType m.after.state (moved f m.who x') := by
  obtain ⟨next, ⟨w, hwk, hx⟩, -, hc, hmove⟩ := hl.stand hs
  obtain ⟨rfl, hnode⟩ := hw w (List.mem_of_getElem? hwk)
  have hmove' : ∀ x', Stands node w x' (next m.exchange.reply) →
      m.after.Stand (Place workers node) (moved f m.who x') := fun x' hx' =>
    hmove x' ⟨w, hwk, hx'⟩
  have htake : ∀ row, m.exchange = ⟨.lease (.acquire row), .answer (.ok true)⟩ →
      Takes ms m.who row := fun row he => ⟨m, hm, rfl, he⟩
  generalize m.who = k at *
  generalize m.after.Stand (Place workers node) = stand at hmove' ⊢
  generalize m.exchange = e at *
  generalize m.after.state = s' at hc ⊢
  generalize m.before.state = s at *
  obtain ⟨q, r⟩ := e
  obtain ⟨o', L'⟩ := s'
  generalize hd : ask q next = d at hx
  generalize hfk : f k = x at hx
  cases hx with
  | opening stage =>
    rw [openingRest_eq] at hd
    cases hd
    obtain ⟨hserves, hL⟩ := hc
    obtain rfl : L' = s.ledgers := hL
    obtain ⟨x', hx', hsound⟩ := h.opening hlate hfk hnode hserves htake
    exact ⟨x', hmove' x' hx', hsound⟩
  | @working row id L subject q next' hkeeps =>
    cases hd
    obtain ⟨hrec, ho⟩ := hc
    obtain rfl : o' = s.office := ho
    obtain ⟨-, -, -, -, rfl⟩ := h.fits_working hfk
    obtain ⟨x', hx', hcases⟩ := stands_of_keeps (w := w) id (hkeeps.2 r L' hrec) row
    exact ⟨x', hmove' x' hx', h.query hfk hrec hcases⟩
  | leaving hasks =>
    cases hd
    exact ⟨_, hmove' _ (.leaving (hasks.2 r)), h.leave hfk hasks.1 hc⟩

/-- A tick is in its batches. -/
def AtWork (a : Assembly Atom Site (Except Fault Unit)) (k : Nat) : Prop :=
  ∃ subject q next, a.speakers[k]? = some (ask (Atom.query subject q) next)

/-- Every tick has done its batches before a reading of the clock reaches the deadline of its lease,
as the row has it. -/
def InTime (ms : List TickMoment) : Prop :=
  ∀ m ∈ ms, ∀ row, m.exchange = ⟨.lease (.acquire row), .answer (.ok true)⟩ →
    ∃ deadline : Instant, deadline.Storable ∧ row.deadline = deadline.stored ∧
      ∀ m' ∈ ms, AtWork m'.after m.who → ¬ m'.after.state.office.now.Reaches deadline

/-- Where a tick is said to work, it works. -/
def Present (a : Assembly Atom Site (Except Fault Unit)) (f : Nat → Standing) : Prop :=
  ∀ k row id L, f k = .working row id L → k < a.speakers.length

theorem late_of_inTime (hin : InTime ms) (hm : m ∈ ms)
    (hs : m.after.Stand (Place workers node) f) (h : Sound ms node workType m.after.state f)
    (hp : Present m.after f) : Late m.after.state f := by
  intro k row id L hk
  obtain ⟨m₀, hm₀, rfl, he⟩ := h.takes k row id L hk
  obtain ⟨deadline, hd, hrow, hlate⟩ := hin m₀ hm₀ row he
  refine ⟨deadline, hd, hrow, hlate m hm ?_⟩
  obtain ⟨d, hget⟩ : ∃ d, m.after.speakers[m₀.who]? = some d :=
    ⟨_, List.getElem?_eq_getElem (hp _ row id L hk)⟩
  obtain ⟨w, -, hx⟩ := hs _ _ hget
  rw [hk] at hx
  cases hx with
  | working hkeeps => exact ⟨_, _, _, hget⟩

/-- What holds after every moment of a run in time. -/
structure Inv (workers : List Worker) (ms : List TickMoment) (node workType : String)
    (a : Assembly Atom Site (Except Fault Unit)) (f : Nat → Standing) : Prop where
  stand : a.Stand (Place workers node) f
  sound : Sound ms node workType a.state f
  late : Late a.state f
  present : Present a f

theorem inv_start (hr : Recorded node s.ledgers) :
    Inv workers ms node workType (assemble workers s) fun _ => .opening .reading where
  stand := stand_start workers node s
  sound := ⟨hr, fun _ => trivial, fun _ _ _ h => (nomatch h), fun _ _ _ _ h => (nomatch h)⟩
  late := fun _ _ _ _ h => nomatch h
  present := fun _ _ _ _ h => nomatch h

theorem Inv.step (hw : OfNode workers node workType) (hin : InTime ms) (hm : m ∈ ms)
    (hl : m.Lawful (Site.conduct node)) (h : Inv workers ms node workType m.before f) :
    ∃ f', Inv workers ms node workType m.after f' := by
  obtain ⟨x', hs', hsound'⟩ := Sound.step hw hm hl h.stand h.sound h.late
  have hp : Present m.after (moved f m.who x') := by
    intro k row id L hk
    rw [hl.length_eq]
    by_cases hkw : k = m.who
    · obtain ⟨next, hask, -⟩ := hl
      obtain ⟨hlt, -⟩ := List.getElem?_eq_some_iff.mp hask
      rwa [hkw]
    · rw [moved_ne f x' hkw] at hk
      exact h.present k row id L hk
  exact ⟨_, hs', hsound', late_of_inTime hin hm hs' hsound' hp, hp⟩

/-- A ledger that records a submission has not recorded its id before. -/
theorem Inv.records (h : Inv workers ms node workType m.before f)
    (hl : m.Lawful (Site.conduct node)) (subject : Subject) :
    m.after.state.ledgers subject = m.before.state.ledgers subject ∨
      ∃ e, e.id ∉ (m.before.state.ledgers subject).map (·.id) ∧
        m.after.state.ledgers subject = m.before.state.ledgers subject ++ [e] := by
  obtain ⟨next, ⟨w, -, hx⟩, -, hc, -⟩ := hl.stand h.stand
  have hfits := h.sound.fits m.who
  generalize m.exchange = e at next hx hc
  obtain ⟨q, r⟩ := e
  cases q with
  | lease q => exact .inl (congrFun hc.2 subject)
  | note n => exact .inl (congrArg (Site.ledgers · subject) hc)
  | query kind q =>
    have hmay := hx.may rfl hfits
    obtain ⟨⟨es, hes, hL⟩, -⟩ := hc
    rw [hL]
    by_cases hk : subject = kind
    · subst hk
      rw [moved_self]
      by_cases hq : Ledger.IsQuiet q
      · exact .inl (Ledger.eq_of_isQuiet hq hes)
      · cases q with
        | submit p =>
          obtain ⟨e, hid, -, rfl⟩ | ⟨rfl, -⟩ := hes
          · exact .inr ⟨e, hid ▸ hmay, rfl⟩
          · exact .inl rfl
        | _ => exact absurd trivial hq
    · rw [moved_ne _ es hk]
      exact .inl rfl

/-- What a ledger has recorded since: different ids, none of which it had recorded before. -/
def Adds (before after : List ResolvedEvent) : Prop :=
  ∃ new, after = before ++ new ∧ (new.map (·.id)).Nodup ∧
    ∀ e ∈ new, e.id ∉ before.map (·.id)

theorem adds_refl (es : List ResolvedEvent) : Adds es es :=
  ⟨[], (List.append_nil es).symm, List.nodup_nil, List.forall_mem_nil _⟩

theorem Adds.append {es es' : List ResolvedEvent} {e : ResolvedEvent} (h : Adds es es')
    (he : e.id ∉ es'.map (·.id)) : Adds es (es' ++ [e]) := by
  obtain ⟨new, rfl, hnodup, hnew⟩ := h
  rw [List.map_append, List.mem_append, not_or] at he
  refine ⟨new ++ [e], List.append_assoc .., ?_, ?_⟩
  · rw [List.map_append, List.nodup_append]
    refine ⟨hnodup, List.nodup_cons.mpr ⟨List.not_mem_nil, List.nodup_nil⟩, ?_⟩
    rintro a ha b hb rfl
    rw [List.map_singleton, List.mem_singleton] at hb
    exact he.2 (hb ▸ ha)
  · exact List.forall_mem_append.mpr ⟨hnew, List.forall_mem_singleton.mpr he.1⟩

theorem Adds.mem {es es' : List ResolvedEvent} {id : String} (h : Adds es es')
    (hid : id ∈ es.map (·.id)) : id ∈ es'.map (·.id) := by
  obtain ⟨new, rfl, -⟩ := h
  rw [List.map_append]
  exact List.mem_append_left _ hid

/-- What holds after every moment of a run in time, and what its ledgers have recorded since. -/
theorem Inv.adds {L : Ledgers}
    (hw : OfNode workers node workType) (hin : InTime ms) (hm : m ∈ ms)
    (hl : m.Lawful (Site.conduct node))
    (h : ∃ f, Inv workers ms node workType m.before f)
    (hadds : ∀ subject, Adds (L subject) (m.before.state.ledgers subject)) :
    (∃ f, Inv workers ms node workType m.after f) ∧
      ∀ subject, Adds (L subject) (m.after.state.ledgers subject) := by
  obtain ⟨f, hf⟩ := h
  refine ⟨hf.step hw hin hm hl, fun subject => ?_⟩
  obtain he | ⟨e, hnew, he⟩ := hf.records hl subject
  · rw [he]
    exact hadds subject
  · rw [he]
    exact (hadds subject).append hnew

/-- The ledger of a kind has accepted a submission of an id. -/
def Accepts (m : TickMoment) (subject : Subject) (id : String) : Prop :=
  ∃ p receipt, p.id = id ∧ m.exchange = ⟨.query subject (.submit p), .answer (.ok receipt)⟩

/-- An id is recorded when a submission of it is accepted, and it was not recorded before. -/
theorem Accepts.fresh {subject : Subject} {id : String} (h : Accepts m subject id)
    (hl : m.Lawful (Site.conduct node)) (hf : Inv workers ms node workType m.before f) :
    id ∉ (m.before.state.ledgers subject).map (·.id) ∧
      id ∈ (m.after.state.ledgers subject).map (·.id) := by
  obtain ⟨p, receipt, rfl, he⟩ := h
  have hrec : ∃ e, e.id = p.id ∧
      m.after.state.ledgers subject = m.before.state.ledgers subject ++ [e] := by
    obtain ⟨next, -, hc, -⟩ := hl
    rw [he] at hc
    obtain ⟨⟨es, ⟨e, hid, -, hes⟩ | ⟨-, hno⟩, hL⟩, -⟩ := hc
    · rw [hL, moved_self]
      exact ⟨e, hid, hes⟩
    · exact absurd rfl (hno receipt)
  obtain ⟨e, hid, hafter⟩ := hrec
  obtain hsame | ⟨e', hnew, hafter'⟩ := hf.records hl subject
  · rw [hafter] at hsame
    exact absurd (List.append_right_eq_self.mp hsame) (List.cons_ne_nil e [])
  · obtain rfl : e = e' :=
      List.singleton_inj.mp (List.append_cancel_left (hafter.symm.trans hafter'))
    refine ⟨hid ▸ hnew, ?_⟩
    rw [hafter, List.map_append, ← hid]
    exact List.mem_append_right _ List.mem_cons_self

theorem pairwise_accepts {a : Assembly Atom Site (Except Fault Unit)} {ms' : List TickMoment}
    (hw : OfNode workers node workType) (hin : InTime ms) (hms : ∀ m ∈ ms', m ∈ ms)
    (run : IsRun (Site.conduct node) a ms') (h : ∃ f, Inv workers ms node workType a f) :
    ms'.Pairwise fun m m' => ∀ subject id, Accepts m subject id → ¬ Accepts m' subject id := by
  induction ms' generalizing a with
  | nil => exact .nil
  | cons m ms' ih =>
    obtain ⟨rfl, hl, run⟩ := run
    obtain ⟨hm, hms⟩ := List.forall_mem_cons.mp hms
    obtain ⟨f, hf⟩ := h
    have hafter := hf.step hw hin hm hl
    refine .cons (fun m' hm' subject id ha ha' => ?_) (ih hms run hafter)
    obtain ⟨hl', ⟨⟨f', hf'⟩, hadds⟩, -⟩ := run.invariant_at
      (p := fun a => (∃ f, Inv workers ms node workType a f) ∧
        ∀ subject, Adds (m.after.state.ledgers subject) (a.state.ledgers subject))
      ⟨hafter, fun _ => adds_refl _⟩
      (fun m hm hl ⟨h, hadds⟩ => Inv.adds hw hin (hms m hm) hl h hadds) m' hm'
    exact (ha'.fresh hl' hf').1 ((hadds subject).mem (ha.fresh hl hf).2)

end Fleet

open Fleet in
/-- However the steps of the ticks of a node interleave, and whatever comes of each of them: as long
as every tick has done its batches before its deadline is reached, no ledger records an id that it
has recorded before, and none accepts two submissions of one id. -/
theorem submits_once {workers : List Worker} {node workType : String} {s : Site}
    {ms : List TickMoment} (hw : OfNode workers node workType) (hr : Recorded node s.ledgers)
    (run : IsRun (Site.conduct node) (assemble workers s) ms) (hin : InTime ms) :
    (∀ subject, Adds (s.ledgers subject)
      (((assemble workers s).last ms).state.ledgers subject)) ∧
    ms.Pairwise fun m m' => ∀ subject id, Accepts m subject id → ¬ Accepts m' subject id := by
  have hstart : ∃ f, Inv workers ms node workType (assemble workers s) f := ⟨_, inv_start hr⟩
  obtain ⟨-, hadds⟩ := run.invariant
    (p := fun a => (∃ f, Inv workers ms node workType a f) ∧
      ∀ subject, Adds (s.ledgers subject) (a.state.ledgers subject))
    ⟨hstart, fun _ => adds_refl _⟩
    fun m hm hl ⟨h, hadds⟩ => Inv.adds hw hin hm hl h hadds
  exact ⟨hadds, pairwise_accepts hw hin (fun _ hm => hm) run hstart⟩

/-! ### Two ticks -/

namespace TwoTicks

open Fleet

/-- The instant at which the clock stands. -/
def noon : Instant := ⟨1700000000, 0⟩

/-- Two workers of one node, which is spelled in two ways. -/
def workers : List Worker :=
  [{ workType := "resolution", leaseTimeout := .ofSeconds 10, mode := .all
     challengeSetup := { node := "0xA" }, transferSetup := { node := "0xa" } },
    { workType := "resolution", leaseTimeout := .ofSeconds 10, mode := .one
      challengeSetup := { node := "0xa" }
      transferSetup := { node := "0xA", downloadTimeout := 500 } }]

def site : Site := ⟨⟨⟨[]⟩, noon, []⟩, fun _ => []⟩

/-- A challenge with free slots. -/
def challenge : Proposition := ⟨"challenge", "0xB", "bundle", 3, ⟨1, 1⟩⟩

/-- How the collaborators reply: a challenge is open, it is the node's turn, and all goes well. -/
def reply (es : List ResolvedEvent) : (q : Query) → Question.Answer q
  | .duration => .ok (.ofSeconds 60)
  | .earliestBlock _ => .ok 0
  | .openedEvents _ => .ok [challenge]
  | .resolvedEvents _ => .ok es
  | .timedOutEvents _ => .ok []
  | .canResolve _ => .ok true
  | .designated _ => .ok "0xA"
  | .submit _ => .ok ⟨"transaction", 2⟩
  | .holders _ => .ok []
  | .uploader _ => .ok "0xB"
  | .download bundle _ _ => .ok (.ofId bundle)
  | .mark _ => .ok ()
  | .shouldFetch _ => .ok true
  | .shouldResolve _ => .ok true
  | .afterResolution _ => .ok ()
  | .retryTimeout => .ofSeconds 1
  | .pick _ => (0 : Nat)
  | .isSuppressed _ => false
  | .remember _ _ => ()
  | .sweep => (0 : Nat)

/-- What the ledger records. -/
def record (es : List ResolvedEvent) : Query → List ResolvedEvent
  | .submit p => es ++ [⟨p.id, "0xA", 2⟩]
  | _ => es

/-- Every step succeeds. -/
def world : Dialogue.Surroundings Atom Site
  | .lease q, s =>
    let (r, office) := Office.still q s.office
    (r, { s with office })
  | .note _, s => (.answer (.ok ()), s)
  | .query subject q, s =>
    let es := s.ledgers subject
    (.answer (reply es q), { s with ledgers := moved s.ledgers subject (record es q) })

/-- Both ticks try to take the lease, in turn; then the one that has it does its work. -/
def moments : List TickMoment :=
  play world ([0, 1, 0, 1, 0, 1, 0, 1] ++ List.replicate 40 0) (assemble workers site)

theorem world_conduct {s : Site} (hnow : s.office.now.Storable)
    (hfresh : (⟨BitVec.ofNat 128 s.office.drawn.length⟩ : Uuid) ∉ s.office.drawn) (q : Atom) :
    Site.conduct "0xa" q s (world q s).1 (world q s).2 := by
  cases q with
  | lease q => exact ⟨.inl (Office.answers_still hnow hfresh q), rfl⟩
  | note n => rfl
  | query subject q =>
    refine ⟨⟨_, ?_, rfl⟩, rfl⟩
    cases q with
    | submit p => exact .inl ⟨_, rfl, show sameAddress "0xA" "0xa" = true by decide, rfl⟩
    | resolvedEvents since =>
      refine ⟨rfl, fun shown h => ?_⟩
      cases h
      exact fun e he => he
    | _ => rfl

/-- The row that an exchange put in. -/
def taken? : Dialogue.Exchange Atom → Option LeaseRow
  | ⟨.lease (.acquire row), .answer (.ok true)⟩ => some row
  | _ => none

/-- The lease of the tick that works. -/
def lease : Lease := Lease.Stage.lease "resolution" ⟨0⟩ noon ⟨1700000010, 0⟩

theorem still_moments : ∀ m ∈ moments, m.before.state.office.now = noon ∧
    m.after.state.office.now = noon ∧
    (⟨BitVec.ofNat 128 m.before.state.office.drawn.length⟩ : Uuid) ∉
      m.before.state.office.drawn ∧
    (taken? m.exchange = none ∨ taken? m.exchange = some (.ofLease lease)) := by
  decide +kernel

theorem isRun : IsRun (Site.conduct "0xa") (assemble workers site) moments := by
  refine isRun_play fun m hm q => ?_
  obtain ⟨hnow, -, hfresh, -⟩ := still_moments m hm
  refine world_conduct ?_ hfresh q
  rw [hnow]
  decide

theorem inTime : InTime moments := by
  intro m hm row he
  obtain ⟨-, -, -, htaken⟩ := still_moments m hm
  rw [he] at htaken
  obtain h | h := htaken
  · cases h
  · obtain rfl := Option.some.inj h
    refine ⟨lease.deadline, by decide, rfl, fun m' hm' _ => ?_⟩
    rw [(still_moments m' hm').2.1]
    decide

end TwoTicks

open Fleet TwoTicks in
/-- Two ticks compete, and the challenge is submitted once. -/
theorem submits_once_two_ticks :
    (((assemble workers site).last moments).state.ledgers .challenge).map (·.id) =
      ["challenge"] ∧
    moments.Pairwise fun m m' => ∀ subject id, Accepts m subject id → ¬ Accepts m' subject id := by
  have hw : OfNode workers "0xa" "resolution" := by
    refine fun w hmem => ⟨?_, fun subject => ?_⟩
    · revert w
      decide
    · cases subject <;> revert w <;> decide
  have hr : Recorded "0xa" site.ledgers := fun _ => List.forall_mem_nil _
  exact ⟨by decide +kernel, (submits_once hw hr isRun inTime).2⟩

end Sheltering
