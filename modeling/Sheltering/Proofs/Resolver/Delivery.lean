import Mathlib.Data.List.Perm.Basic
import Sheltering.Proofs.Fetch
import Sheltering.Proofs.Resolver.Donors
import Sheltering.Proofs.Resolver.Scope

/-!
# Bundles from a storage

* `Storage.Faces`: the storage answers for the nodes, the registry for the candidates, and what is
  picked is in range.
* `FirstServed`: nodes are asked until one serves the bundle.
* `Resolver.DonorSearch.firstServed`, `Resolver.Search.firstServed`: so they are in every search.
* `Resolver.objects_of_resolve`: no other bundle is ever had of a storage.
* `Resolver.Delivers`: what a resolver has of a storage. `Resolver.delivers`: it always does.
-/

namespace Sheltering

open Dialogue (Exchange Held held_call)
open Query (Sane)

/-! ## Surroundings -/

/-- What is known of every bundle: the nodes that shelter it, and the one that uploaded it. -/
structure Registry where
  holders : String → Except Fault (List String)
  uploader : String → Except Fault String

/-- The candidates for a bundle. -/
def Registry.candidates (g : Registry) (bundle : String) : Subject → Except Fault (List String)
  | .challenge => do
    let holders ← g.holders bundle
    let uploader ← g.uploader bundle
    pure (holders ++ [uploader])
  | .transfer => g.holders bundle

/-- The exchange is one with the storage, with the registry, or with a source of chance whose
numbers are in range. Others may go as they will. -/
def Storage.Faces (s : Storage) (g : Registry) : Exchange Query → Prop
  | ⟨.download bundle node timeout, reply⟩ => reply = .answer (s.download bundle node timeout)
  | ⟨.holders bundle, reply⟩ => reply = .answer (g.holders bundle)
  | ⟨.uploader bundle, reply⟩ => reply = .answer (g.uploader bundle)
  | ⟨.pick n, reply⟩ => ∃ i, i < n ∧ reply = .answer i
  | _ => True

theorem Storage.Faces.sane {s : Storage} {g : Registry} {bundle : String} {e : Exchange Query}
    (h : s.Faces g e) (he : e.question.IsSearch bundle) : Sane e := by
  obtain ⟨q, reply⟩ := e
  cases q with
  | download | holders | uploader =>
    cases h
    trivial
  | pick n =>
    obtain ⟨i, hi, rfl⟩ := h
    exact hi
  | _ => exact he.elim

/-- The nodes that were asked for a bundle, in order. -/
def askedNodes (es : List (Exchange Query)) : List String :=
  es.filterMap fun e =>
    match e.question with
    | .download _ node _ => some node
    | _ => none

/-! ## The first that serves -/

/-- Nodes were asked until one served the bundle: the result is its metadata, or all of them were
asked in vain. -/
structure FirstServed (nodes : String → Prop) (serves : String → BundleMetadata → Prop)
    (asked : List String) (result : Except ResolutionFault BundleMetadata) : Prop where
  success : (∃ b, result = .ok b) ↔ ∃ node, nodes node ∧ ∃ b, serves node b
  first : ∀ b, result = .ok b → ∃ earlier node, asked = earlier ++ [node] ∧ serves node b ∧
    ∀ n ∈ earlier, ∀ b, ¬ serves n b
  all : (∀ b, result ≠ .ok b) → ∀ node, nodes node → node ∈ asked
  only : ∀ node ∈ asked, nodes node

namespace FirstServed

variable {nodes others : String → Prop} {serves : String → BundleMetadata → Prop}
  {asked : List String} {result : Except ResolutionFault BundleMetadata} {node : String}
  {b : BundleMetadata} {fault : ResolutionFault}

theorem found (hn : nodes node) (hs : serves node b) : FirstServed nodes serves [node] (.ok b) where
  success := iff_of_true ⟨b, rfl⟩ ⟨node, hn, b, hs⟩
  first _ hb := ⟨[], node, rfl, Except.ok.inj hb ▸ hs, fun _ hn => nomatch hn⟩
  all h := absurd rfl (h b)
  only _ hm := List.mem_singleton.mp hm ▸ hn

theorem exhausted (hn : ∀ node, ¬ nodes node) : FirstServed nodes serves [] (.error fault) where
  success := iff_of_false (fun ⟨_, hb⟩ => nomatch hb) fun ⟨node, h, _⟩ => hn node h
  first _ hb := nomatch hb
  all _ node h := absurd h (hn node)
  only _ hm := nomatch hm

/-- A node that does not serve the bundle changes nothing for those that are asked after it. -/
theorem next (h : FirstServed others serves asked result)
    (hnodes : ∀ n, nodes n ↔ n = node ∨ others n) (hs : ∀ b, ¬ serves node b) :
    FirstServed nodes serves (node :: asked) result := by
  refine ⟨h.success.trans ⟨?_, ?_⟩, fun b hb => ?_, fun hresult n hn => ?_, ?_⟩
  · rintro ⟨n, hn, hb⟩
    exact ⟨n, (hnodes n).mpr (.inr hn), hb⟩
  · rintro ⟨n, hn, b, hb⟩
    obtain rfl | hn := (hnodes n).mp hn
    · exact absurd hb (hs b)
    · exact ⟨n, hn, b, hb⟩
  · obtain ⟨earlier, n, rfl, hn, hearlier⟩ := h.first b hb
    exact ⟨node :: earlier, n, rfl, hn, List.forall_mem_cons.mpr ⟨hs, hearlier⟩⟩
  · obtain rfl | hn := (hnodes n).mp hn
    · exact List.mem_cons_self
    · exact List.mem_cons_of_mem _ (h.all hresult n hn)
  · refine List.forall_mem_cons.mpr ⟨(hnodes node).mpr (.inl rfl), fun n hn => ?_⟩
    exact (hnodes n).mpr (.inr (h.only n hn))

end FirstServed

/-! ## Searches -/

namespace Resolver

variable {r : Resolver} {p : Proposition} {s : Storage} {g : Registry} {es : List (Exchange Query)}
  {bundle node : String} {timeout : UInt64}

theorem serves_of_faces {b : BundleMetadata}
    (h : s.Faces g ⟨.download bundle node timeout, .answer (.ok b)⟩) : s.Serves bundle node b :=
  (s.classified.served b).mp (Reply.answer.inj h).symm

theorem not_serves_of_faces {fault : DownloadFault}
    (h : s.Faces g ⟨.download bundle node timeout, .answer (.error fault)⟩) (b : BundleMetadata) :
    ¬ s.Serves bundle node b := by
  intro hs
  have hd : s.download bundle node timeout = .ok b := (s.classified.served b).mpr hs
  cases (Reply.answer.inj h).trans hd

/-- Donors are asked until one serves the bundle. -/
theorem DonorSearch.firstServed {ds : List String} {n : Nat} {last : DownloadFault}
    {result : Except ResolutionFault BundleMetadata}
    (h : DonorSearch r bundle ds n last es result) (faces : ∀ e ∈ es, s.Faces g e) :
    FirstServed (· ∈ ds) (s.Serves bundle) (askedNodes es) result := by
  induction h with
  | exhausted => exact .exhausted fun node => List.not_mem_nil
  | found hi =>
    obtain ⟨-, hd⟩ := List.forall_mem_cons.mp faces
    exact .found (List.getElem_mem hi) (serves_of_faces (hd _ List.mem_cons_self))
  | next hi _ ih =>
    obtain ⟨-, faces⟩ := List.forall_mem_cons.mp faces
    obtain ⟨hd, faces⟩ := List.forall_mem_cons.mp faces
    refine (ih faces).next (fun node => ?_) (not_serves_of_faces hd)
    rw [← (List.getElem_cons_eraseIdx_perm hi).mem_iff, List.mem_cons]

/-- The candidates are those of the registry, and no node is asked for a bundle meanwhile. -/
theorem candidates_eq {result : Except Fault (List String)}
    (h : (candidates r.subject p).run.Held es (.answer result)) (faces : ∀ e ∈ es, s.Faces g e) :
    g.candidates p.bundle r.subject = result ∧ askedNodes es = [] := by
  obtain ⟨holders, es₁, es₂, rfl, h₁, h₂⟩ | ⟨fault, h₁, he⟩ | ⟨-, he⟩ := Held.run_bind_inv h
  · obtain rfl := held_call h₁
    obtain ⟨hg, faces⟩ := List.forall_mem_cons.mp faces
    have hg : .ok holders = g.holders p.bundle := Reply.answer.inj hg
    cases hsubject : r.subject with
    | transfer =>
      rw [hsubject] at h₂
      obtain ⟨rfl, he⟩ := h₂
      cases he
      exact ⟨hg.symm, rfl⟩
    | challenge =>
      rw [hsubject] at h₂
      rw [Registry.candidates, ← hg]
      obtain ⟨uploader, es₃, es₄, rfl, h₃, rfl, he⟩ | ⟨fault, h₃, he⟩ | ⟨-, he⟩ :=
        Held.run_bind_inv h₂
      · obtain rfl := held_call h₃
        have hu : .ok uploader = g.uploader p.bundle :=
          Reply.answer.inj (faces _ List.mem_cons_self)
        cases he
        rw [← hu]
        exact ⟨rfl, rfl⟩
      · obtain rfl := held_call h₃
        have hu : .error fault = g.uploader p.bundle :=
          Reply.answer.inj (faces _ List.mem_cons_self)
        cases he
        rw [← hu]
        exact ⟨rfl, rfl⟩
      · cases he
  · obtain rfl := held_call h₁
    have hg : .error fault = g.holders p.bundle := Reply.answer.inj (faces _ List.mem_cons_self)
    cases he
    refine ⟨?_, rfl⟩
    cases r.subject with
    | challenge =>
      rw [Registry.candidates, ← hg]
      rfl
    | transfer => exact hg.symm
  · cases he

/-- The node may be asked for the bundle: it is the holder, or a donor if there are candidates. -/
def MayAsk (r : Resolver) (p : Proposition) (g : Registry) (node : String) : Prop :=
  node = p.holder ∨ ∃ cs, g.candidates p.bundle r.subject = .ok cs ∧ r.IsDonor p cs node

theorem mayAsk_of_candidates {cs : List String} {node : String}
    (h : g.candidates p.bundle r.subject = .ok cs) :
    r.MayAsk p g node ↔ node = p.holder ∨ node ∈ r.donors p cs := by
  rw [MayAsk, h, mem_donors]
  simp

theorem mayAsk_of_trouble {trouble : Fault} {node : String}
    (h : g.candidates p.bundle r.subject = .error trouble) :
    r.MayAsk p g node ↔ node = p.holder ∨ False := by
  rw [MayAsk, h]
  simp

/-- The holder, then the donors are asked until one serves the bundle. -/
theorem Search.firstServed {result : Except ResolutionFault BundleMetadata}
    (h : Search r p es result) (faces : ∀ e ∈ es, s.Faces g e) :
    (askedNodes es).head? = some p.holder ∧
      FirstServed (r.MayAsk p g) (s.Serves p.bundle) (askedNodes es) result := by
  refine ⟨by cases h <;> rfl, ?_⟩
  cases h with
  | held => exact .found (.inl rfl) (serves_of_faces (faces _ List.mem_cons_self))
  | poolless hpool =>
    obtain ⟨hd, faces⟩ := List.forall_mem_cons.mp faces
    obtain ⟨hg, hes⟩ := candidates_eq hpool faces
    rw [askedNodes, List.filterMap_cons, ← askedNodes, hes]
    exact (FirstServed.exhausted fun _ h => h).next (fun _ => mayAsk_of_trouble hg)
      (not_serves_of_faces hd)
  | alone hpool hnone =>
    obtain ⟨hd, faces⟩ := List.forall_mem_cons.mp faces
    obtain ⟨hg, hes⟩ := candidates_eq hpool faces
    rw [askedNodes, List.filterMap_cons, ← askedNodes, hes]
    refine (FirstServed.exhausted fun node => ?_).next (fun _ => mayAsk_of_candidates hg)
      (not_serves_of_faces hd)
    rw [hnone]
    exact List.not_mem_nil
  | donors hpool _ hsearch =>
    obtain ⟨hd, faces⟩ := List.forall_mem_cons.mp faces
    obtain ⟨hpoolFaces, faces⟩ := List.forall_mem_append.mp faces
    obtain ⟨hg, hes⟩ := candidates_eq hpool hpoolFaces
    rw [askedNodes, List.filterMap_cons, List.filterMap_append, ← askedNodes, ← askedNodes, hes]
    exact (hsearch.firstServed faces).next (fun _ => mayAsk_of_candidates hg)
      (not_serves_of_faces hd)

/-! ## The check after the download -/

theorem ofFault_ne {fault : Fault} {bundle reason : String} :
    ResolutionFault.ofFault fault ≠ .invalidBundle bundle reason := by
  cases fault <;> nofun

theorem DonorSearch.ne_invalidBundle {ds : List String} {n : Nat} {last : DownloadFault}
    {result : Except ResolutionFault BundleMetadata} {reason : String}
    (h : DonorSearch r bundle ds n last es result) :
    result ≠ .error (.invalidBundle node reason) := by
  induction h with
  | exhausted | found => nofun
  | next _ _ ih => exact ih

theorem Search.ne_invalidBundle {result : Except ResolutionFault BundleMetadata} {reason : String}
    (h : Search r p es result) : result ≠ .error (.invalidBundle bundle reason) := by
  cases h with
  | held | alone => nofun
  | poolless => exact fun he => ofFault_ne (Except.error.inj he)
  | donors _ _ hsearch => exact hsearch.ne_invalidBundle

theorem service_ne_invalidBundle {α : Type} {x : Ask Fault α} {reason : String} :
    ¬ (service x).run.Held es (.answer (.error (.invalidBundle bundle reason))) := by
  intro h
  obtain ⟨reply, -, he⟩ := held_adapt h
  obtain (fault | a) | _ := reply
  · exact ofFault_ne (Except.error.inj (Reply.answer.inj he)).symm
  · cases he
  · cases he

/-- The strategy answered with the fault itself. -/
def Objects (p : Proposition) (es : List (Exchange Query)) (fault : ResolutionFault) : Prop :=
  ⟨.shouldFetch p, .answer (.error fault)⟩ ∈ es ∨
    ∃ b, ⟨.shouldResolve b, .answer (.error fault)⟩ ∈ es

/-- If a fault of two parts is the strategy's in either of them, it is the strategy's. -/
theorem objects_bind {α : Type} {x : Ask ResolutionFault α} {f : α → Ask ResolutionFault Outcome}
    {fault : ResolutionFault} (h : (x >>= f).run.Held es (.answer (.error fault)))
    (faces : ∀ e ∈ es, s.Faces g e)
    (hx : ∀ es, (∀ e ∈ es, s.Faces g e) → x.run.Held es (.answer (.error fault)) →
      Objects p es fault)
    (hf : ∀ a es₁ es₂, (∀ e ∈ es₁, s.Faces g e) → x.run.Held es₁ (.answer (.ok a)) →
      (∀ e ∈ es₂, s.Faces g e) → (f a).run.Held es₂ (.answer (.error fault)) →
      Objects p es₂ fault) : Objects p es fault := by
  obtain ⟨a, es₁, es₂, rfl, h₁, h₂⟩ | ⟨fault', h₁, he⟩ | ⟨-, he⟩ := Held.run_bind_inv h
  · obtain ⟨faces₁, faces₂⟩ := List.forall_mem_append.mp faces
    obtain hobjects | ⟨b, hobjects⟩ := hf a es₁ es₂ faces₁ h₁ faces₂ h₂
    · exact .inl (List.mem_append_right _ hobjects)
    · exact .inr ⟨b, List.mem_append_right _ hobjects⟩
  · cases he
    exact hx es faces h₁
  · cases he

/-- What is had of a search with a storage is the bundle that was asked for. -/
theorem bundle_of_held {b : BundleMetadata} (faces : ∀ e ∈ es, s.Faces g e)
    (h : (fetchBundle r p).run.Held es (.answer (.ok b))) : b.bundle = p.bundle := by
  obtain ⟨node, timeout, hmem⟩ := held_fetchBundle h
  obtain ⟨-, -, -, -, -, hb⟩ := serves_of_faces (faces _ hmem)
  exact hb

/-- A storage never hands over another bundle, so that is never why a resolution fails. -/
theorem objects_of_resolve {reason : String} (faces : ∀ e ∈ es, s.Faces g e)
    (h : (resolve r p).run.Held es (.answer (.error (.invalidBundle bundle reason)))) :
    Objects p es (.invalidBundle bundle reason) := by
  -- Part by part: services and searches have no such fault, and the check finds the same bundle.
  refine objects_bind h faces (fun _ _ h => absurd h service_ne_invalidBundle)
    fun canResolve _ es _ _ faces h => ?_
  cases canResolve with
  | false => cases h.2
  | true =>
    refine objects_bind h faces (fun _ _ h => absurd h service_ne_invalidBundle)
      fun address _ es _ _ faces h => ?_
    split at h
    · cases h.2
    refine objects_bind h faces (fun _ _ h => ?_) fun shouldFetch _ es _ _ faces h => ?_
    · rw [held_call h]
      exact .inl List.mem_cons_self
    cases shouldFetch with
    | false => cases h.2
    | true =>
      refine objects_bind h faces (fun es faces h => ?_) fun b _ es faces₁ h₁ faces h => ?_
      · have sane : ∀ e ∈ es, Sane e := fun e he =>
          (faces e he).sane (asks_search.held h e he)
        obtain ⟨result, he, hsearch⟩ := search_of_held h sane
        cases he
        exact absurd rfl hsearch.ne_invalidBundle
      dsimp only at h
      rw [if_neg (not_not_intro (bundle_of_held faces₁ h₁))] at h
      refine objects_bind h faces (fun _ _ h => ?_) fun shouldResolve _ es _ _ faces h => ?_
      · rw [held_call h]
        exact .inr ⟨b, List.mem_cons_self⟩
      cases shouldResolve with
      | false => cases h.2
      | true =>
        refine objects_bind h faces (fun _ _ h => absurd h service_ne_invalidBundle)
          fun receipt _ es _ _ faces h => ?_
        refine objects_bind h faces (fun _ _ h => ?_) fun _ _ es _ _ _ h => ?_
        · obtain ⟨reply, -, he⟩ := held_adapt h
          obtain (fault | a) | _ := reply <;> cases he
        · obtain ⟨_, _, _, -, -, -, he⟩ | ⟨-, he⟩ := Held.lift_bind_inv h <;> cases he

theorem resolve_of_failed {fault : ResolutionFault}
    (h : (attempt r p).Held es (.answer (.failed fault))) :
    ∃ es', (∀ e ∈ es', e ∈ es) ∧ (resolve r p).run.Held es' (.answer (.error fault)) := by
  obtain ⟨suppressed, es₁, es₂, rfl, -, h₂⟩ | ⟨-, he⟩ := Held.bind_inv h
  · cases suppressed with
    | true => cases h₂.2
    | false =>
      obtain ⟨result, es₃, es₄, rfl, h₃, h₄⟩ | ⟨-, he⟩ := Held.bind_inv h₂
      · cases result with
        | ok outcome =>
          cases h₄.2
          exact absurd rfl ((yields_resolve.held h₃).2 fault)
        | error fault' =>
          obtain ⟨ttl, _, es₅, rfl, -, h₅⟩ | ⟨-, he⟩ := Held.bind_inv (d := Ask.retryTimeout) h₄
          · obtain ⟨_, _, _, rfl, -, -, he⟩ | ⟨-, he⟩ := Held.bind_inv h₅ <;> cases he
            exact ⟨es₃, fun e he => List.mem_append_right _ (List.mem_append_left _ he), h₃⟩
          · cases he
      · cases he
  · cases he

/-! ## Runs -/

/-- Answers for the storage and the registry, and picks the first of what is left. -/
def answerFirst (s : Storage) (g : Registry) : (q : Query) → Reply (Answer q)
  | .download bundle node timeout => .answer (s.download bundle node timeout)
  | .holders bundle => .answer (g.holders bundle)
  | .uploader bundle => .answer (g.uploader bundle)
  | .pick _ => .answer Nat.zero
  | _ => .panic

theorem faces_answerFirst {q : Query} (h : IsPossible q) : s.Faces g ⟨q, answerFirst s g q⟩ := by
  cases q with
  | download | holders | uploader => rfl
  | pick n => exact ⟨0, h, rfl⟩
  | _ => trivial

/-- There is a search with every storage. -/
theorem exists_search (r : Resolver) (p : Proposition) (s : Storage) (g : Registry) :
    ∃ es ending, (fetchBundle r p).run.Held es ending ∧ ∀ e ∈ es, s.Faces g e := by
  let world : Dialogue.Surroundings Query Unit := fun q u => (answerFirst s g q, u)
  exact ⟨_, _, Dialogue.run_held world (fetchBundle r p).run (),
    asks_fetchBundle_possible.run_exchanges fun _ _ => faces_answerFirst⟩

/-! ## Deliveries -/

/-- What a resolver has of searches with a storage. -/
structure Delivers (r : Resolver) (p : Proposition) (s : Storage) (g : Registry) : Prop where
  /-- What comes of asking a node is the bundle or one of four kinds of fault. -/
  classified : ∀ bundle node timeout, s.Classified bundle node timeout
  /-- The holder is asked first. If one of the nodes that may be asked serves the bundle, the first
  of these that is asked gives its metadata. -/
  firstServed : ∀ es ending, (fetchBundle r p).run.Held es ending → (∀ e ∈ es, s.Faces g e) →
    ∃ result, ending = .answer result ∧ (askedNodes es).head? = some p.holder ∧
      FirstServed (r.MayAsk p g) (s.Serves p.bundle) (askedNodes es) result
  /-- No attempt finds another bundle than the one that was asked for. -/
  undisputed : ∀ es bundle reason,
    (attempt r p).Held es (.answer (.failed (.invalidBundle bundle reason))) →
    (∀ e ∈ es, s.Faces g e) → Objects p es (.invalidBundle bundle reason)

theorem firstServed_of_held {ending : Reply (Except ResolutionFault BundleMetadata)}
    (h : (fetchBundle r p).run.Held es ending) (faces : ∀ e ∈ es, s.Faces g e) :
    ∃ result, ending = .answer result ∧ (askedNodes es).head? = some p.holder ∧
      FirstServed (r.MayAsk p g) (s.Serves p.bundle) (askedNodes es) result := by
  have sane : ∀ e ∈ es, Sane e := fun e he => (faces e he).sane (asks_search.held h e he)
  obtain ⟨result, rfl, hsearch⟩ := search_of_held h sane
  exact ⟨result, rfl, hsearch.firstServed faces⟩

/-- Only a verified bundle is had of a storage, and any node that can serve it is enough. -/
theorem delivers (r : Resolver) (p : Proposition) (s : Storage) (g : Registry) :
    r.Delivers p s g where
  classified _ _ _ := s.classified
  firstServed _ _ h faces := firstServed_of_held h faces
  undisputed _ _ _ h faces := by
    obtain ⟨es', hsub, h⟩ := resolve_of_failed h
    obtain hobjects | ⟨b, hobjects⟩ := objects_of_resolve (fun e he => faces e (hsub e he)) h
    · exact .inl (hsub _ hobjects)
    · exact .inr ⟨b, hsub _ hobjects⟩

namespace Respelled

/-- A web in which one node serves the bundle. Its address is known in one spelling only. -/
def storage (spelling : String) : Storage where
  directory := .ofList [(spelling, "http://[::1]:8080/")]
  web _ := .answer 200 (.whole "\x7b\"bundleId\":\"b1\"\x7d".toUTF8.toList)

def registry : Registry := ⟨fun _ => .ok ["0xA", "0xa"], fun _ => .ok "0xUP"⟩

def resolver : Resolver := ⟨.challenge, "0xME", 10000⟩

def proposition : Proposition := ⟨"c1", "0xS", "b1", 1, ⟨1, 0⟩⟩

def url : Url where
  scheme := "http"
  host := some "[::1]"
  endpoint := some 8080
  path := "/bundle/b1/info"

theorem serves (spelling : String) : (storage spelling).Serves "b1" spelling (.ofId "b1") := by
  have hbase : (storage spelling).directory spelling = .ok "http://[::1]:8080/" := by
    show Directory.ofList _ spelling = _
    rw [Directory.ofList, List.lookup_cons_self]
  have hurl : Url.ofText? (metadataAddress "http://[::1]:8080/" "b1") = some url := by
    decide +kernel
  have hhost : "[::1]".any Url.unsendable.contains = "[::1]".toList.any Url.unsendable.contains :=
    String.contains_bool_eq
  have hsend : url.requested.isSendable = true := by
    show (_ && _ && !("[::1]".any Url.unsendable.contains)) = true
    rw [hhost]
    decide +kernel
  have hbody : BundleMetadata.ofBytes? "\x7b\"bundleId\":\"b1\"\x7d".toUTF8.toList =
      some (.ofId "b1") := by
    decide +kernel
  exact ⟨200, _, ⟨_, url, hbase, hurl, hsend, rfl⟩, by decide, hbody, rfl⟩

/-- A node without a base address serves nothing. -/
theorem not_serves {spelling node : String} (h : node ≠ spelling) (b : BundleMetadata) :
    ¬ (storage spelling).Serves "b1" node b := by
  rintro ⟨status, bytes, ⟨base, url, hbase, -⟩, -⟩
  have hnone : [(spelling, "http://[::1]:8080/")].lookup node = none :=
    List.lookup_eq_none_iff.mpr (List.forall_mem_singleton.mpr (bne_iff_ne.mpr h))
  change Directory.ofList _ node = _ at hbase
  rw [Directory.ofList, hnone] at hbase
  cases hbase

/-- If the address is known in the spelling that comes first, the bundle is had. -/
theorem delivered : ∃ es b, (fetchBundle resolver proposition).run.Held es (.answer (.ok b)) ∧
    ∀ e ∈ es, (storage "0xA").Faces registry e := by
  obtain ⟨es, ending, h, faces⟩ := exists_search resolver proposition (storage "0xA") registry
  obtain ⟨result, rfl, -, hfirst⟩ :=
    (delivers resolver proposition (storage "0xA") registry).firstServed es ending h faces
  have hasked : resolver.MayAsk proposition registry "0xA" := by
    have hdonor : "0xA" ∈ resolver.donors proposition ["0xA", "0xa", "0xUP"] := by decide +kernel
    exact (mayAsk_of_candidates rfl).mpr (.inr hdonor)
  obtain ⟨b, rfl⟩ := hfirst.success.mpr ⟨"0xA", hasked, _, serves "0xA"⟩
  exact ⟨es, b, h, faces⟩

/-- If it is known in another, the node is not asked, although it is a candidate that is neither the
holder nor this node, and serves the bundle. -/
theorem undelivered : ¬ ∀ es ending, (fetchBundle resolver proposition).run.Held es ending →
    (∀ e ∈ es, (storage "0xa").Faces registry e) →
    ((∃ b, ending = .answer (.ok b)) ↔ ∃ node, (node = proposition.holder ∨
      ∃ cs, registry.candidates proposition.bundle resolver.subject = .ok cs ∧ node ∈ cs ∧
        resolver.IsStranger proposition node) ∧
      ∃ b, (storage "0xa").Serves proposition.bundle node b) := by
  intro hall
  obtain ⟨es, ending, h, faces⟩ := exists_search resolver proposition (storage "0xa") registry
  have hstranger : resolver.IsStranger proposition "0xa" := by
    constructor <;> decide +kernel
  obtain ⟨b, rfl⟩ := (hall es ending h faces).mpr
    ⟨"0xa", .inr ⟨["0xA", "0xa", "0xUP"], rfl, by decide, hstranger⟩, _, serves "0xa"⟩
  obtain ⟨_, he, -, hfirst⟩ := firstServed_of_held h faces
  obtain ⟨node, hnode, b', hb'⟩ := hfirst.success.mp ⟨b, (Reply.answer.inj he).symm⟩
  have hdonors : resolver.donors proposition ["0xA", "0xa", "0xUP"] = ["0xA", "0xUP"] := by
    decide +kernel
  have hcandidates : registry.candidates proposition.bundle resolver.subject =
      .ok ["0xA", "0xa", "0xUP"] := rfl
  rw [mayAsk_of_candidates hcandidates, hdonors] at hnode
  have hnone : ∀ node ∈ ["0xS", "0xA", "0xUP"], node ≠ "0xa" := by decide
  exact not_serves (hnone node (List.mem_cons.mpr hnode)) b' hb'

end Respelled

end Resolver

end Sheltering
