import Sheltering.Proofs.Setting
import Sheltering.Setting.Document

/-!
# Settings of a YAML text have each key once

* `Setting.Reads`: what all results of a reader of nodes have in common.
* `Setting.reads_ofNode?`: the setting of a node has each key once, at every depth.
* `Settings.keyed_of_ofYaml?`: so has the table of a text.
-/

namespace Sheltering

open Yaml

namespace Setting

/-! ## Readers of nodes -/

/-- Every result of the reader has the property. -/
def Reads {α : Type} (x : NodeVisit α) (P : α → Prop) : Prop :=
  ∀ count a count', x.run count = some (a, count') → P a

section

variable {α β : Type} {P : α → Prop} {Q : β → Prop} {x : NodeVisit α} {f : α → NodeVisit β}

theorem reads_pure {a : α} (h : P a) : Reads (pure a) P := by
  intro count b count' hrun
  cases hrun
  exact h

theorem reads_any : Reads x fun _ => True := fun _ _ _ _ => trivial

theorem reads_failure : Reads (failure : NodeVisit α) P := nofun

theorem Reads.bind (hx : Reads x P) (hf : ∀ a, P a → Reads (f a) Q) : Reads (x >>= f) Q := by
  intro count b count' hrun
  rw [StateT.run_bind] at hrun
  obtain ⟨⟨a, between⟩, ha, hb⟩ := Option.bind_eq_some_iff.mp hrun
  exact hf a (hx _ _ _ ha) _ _ _ hb

theorem reads_mapM {γ : Type} {f : γ → NodeVisit α} (h : ∀ c, Reads (f c) P) (cs : List γ) :
    Reads (cs.mapM f) fun as => ∀ a ∈ as, P a := by
  induction cs with
  | nil => exact reads_pure nofun
  | cons c cs ih =>
    rw [List.mapM_cons]
    exact (h c).bind fun a ha => ih.bind fun as has =>
      reads_pure (List.forall_mem_cons.mpr ⟨ha, has⟩)

end

/-! ## Nodes -/

theorem keyed_underName {value : Setting} (name : String) (h : value.Keyed) :
    (underName name value).Keyed := by
  rw [underName]
  induction (Text.splitAt '.' name.toList).takeWhile (!·.isEmpty) with
  | nil => exact h
  | cons part parts ih => exact Settings.keyed_singleton ih

theorem keyed_underTag {value : Setting} (tag : Option Tag) (h : value.Keyed) :
    (underTag tag value).Keyed := by
  rw [underTag]
  split
  · exact keyed_underName _ h
  · exact h

theorem keyed_ofPlain (s : String) : (ofPlain s).Keyed := by
  rw [ofPlain]
  split <;> exact .plain rfl

theorem keyed_of_ofTyped? {tag : Option String} {s : String} {value : Setting}
    (h : ofTyped? tag s = some value) : value.Keyed := by
  unfold ofTyped? at h
  split at h
  · obtain ⟨b, -, rfl⟩ := Option.map_eq_some_iff.mp h
    exact .plain rfl
  · obtain ⟨n, -, rfl⟩ := Option.map_eq_some_iff.mp h
    exact .plain rfl
  · split at h <;> cases h
    exact .plain rfl
  · split at h <;> cases h
    exact .plain rfl
  · cases h
    exact .plain rfl

theorem keyed_of_ofScalar? {tag : Option Tag} {plain : Bool} {s : String} {value : Setting}
    (h : ofScalar? tag plain s = some value) : value.Keyed := by
  rw [ofScalar?] at h
  split at h
  · cases h
    refine keyed_underTag tag ?_
    rw [ofUntyped]
    split
    · exact keyed_ofPlain s
    · exact .plain rfl
  · exact keyed_of_ofTyped? h

theorem keyed_of_ofEntries? {entries : List (String × Setting)} {value : Setting}
    (h : ofEntries? entries = some value) (hentries : ∀ e ∈ entries, e.2.Keyed) : value.Keyed := by
  rw [ofEntries?] at h
  split at h
  · have htable : (Settings.ofList (entries.filter fun e => e.1 ≠ sourceKey)).Keyed :=
      Settings.keyed_ofList fun e he => hentries e (List.mem_of_mem_filter he)
    obtain rfl := Option.some.inj h
    cases hvalue : List.lookup valueKey
        (Settings.ofList (entries.filter fun e => e.1 ≠ sourceKey)) with
    | some value => exact htable.lookup hvalue
    | none => exact htable
  · cases h

theorem reads_scalar (tag : Option Tag) (plain : Bool) (s : String) :
    Reads (fun count => (ofScalar? tag plain s).map fun value => (value, count)) Keyed := by
  intro count value count' h
  obtain ⟨value, hscalar, hvalue⟩ := Option.map_eq_some_iff.mp h
  cases hvalue
  exact keyed_of_ofScalar? hscalar

theorem reads_entries {d : Document} {depth : Nat}
    (h : ∀ node, Reads (ofNode? d depth node) Keyed) (entries : List (Node × Node)) :
    Reads (entries.mapM fun (k, v) => do pure (← keyOf d k, ← ofNode? d depth (← followed d v)))
      fun entries => ∀ e ∈ entries, e.2.Keyed :=
  reads_mapM (P := fun e : String × Setting => e.2.Keyed)
    (f := fun (k, v) => do pure (← keyOf d k, ← ofNode? d depth (← followed d v)))
    (fun (_, _) => reads_any.bind fun _ _ => reads_any.bind fun node _ =>
      (h node).bind fun _ hvalue => reads_pure hvalue) entries

/-- The setting of a node has each key once, at every depth. -/
theorem reads_ofNode? (d : Document) (depth : Nat) (node : Node) :
    Reads (ofNode? d depth node) Keyed := by
  induction depth generalizing node with
  | zero =>
    unfold ofNode?
    cases node with
    | scalar tag plain s => exact reads_scalar tag plain s
    | _ => exact reads_failure
  | succ depth ih =>
    unfold ofNode?
    cases node with
    | scalar tag plain s => exact reads_scalar tag plain s
    | sequence tag items =>
      exact reads_any.bind fun _ _ => reads_pure (keyed_underTag tag (.plain rfl))
    | mapping tag entries =>
      refine (reads_entries ih entries).bind fun entries hentries => ?_
      split
      · exact reads_pure (keyed_underTag tag (keyed_of_ofEntries? ‹_› hentries))
      · exact reads_failure
    | reference => exact reads_failure

end Setting

namespace Settings

open Setting

theorem reads_ofRoot? (d : Document) (entries : List (Node × Node)) :
    Reads (ofRoot? d entries) Keyed := by
  rw [ofRoot?]
  exact (reads_entries (reads_ofNode? d _) entries).bind fun _ hentries =>
    reads_pure (keyed_ofList hentries)

/-- The table of a text has each key once, at every depth. -/
theorem keyed_of_ofYaml? {text : String} {s : Settings} (h : ofYaml? text = some s) : s.Keyed := by
  obtain ⟨d, -, h⟩ := Option.bind_eq_some_iff.mp h
  unfold ofDocument? at h
  split at h
  · cases h
    exact keyed_nil
  · obtain ⟨⟨table, count⟩, hroot, rfl⟩ := Option.map_eq_some_iff.mp h
    exact reads_ofRoot? d _ _ _ _ hroot
  · cases h

end Settings

end Sheltering
