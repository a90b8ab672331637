import Mathlib.Data.List.TakeWhile
import Sheltering.Proofs.Setting
import Sheltering.Setting.Variable

/-!
# Settings of environment variables

* `Variable.path?_congr`: names that differ in the case of their letters stand for the same keys.
* `Variable.layer?`: the table of one variable.
* `Settings.ofVariables?_eq`: the table of an environment is that of each of its variables over
  those before.
* `Settings.keyed_of_ofVariables?`: it has each key once, at every depth.
-/

namespace Sheltering

open Text

/-! ## Values -/

namespace VariableText

/-- What is read, if anything, has the property. -/
def Reads {α : Type} (x : Except Misread α) (P : α → Prop) : Prop := ∀ a, x = .ok a → P a

section

variable {α β : Type} {P : α → Prop} {Q : β → Prop} {x : Except Misread α}
  {f : α → Except Misread β}

theorem reads_ok {a : α} (h : P a) : Reads (.ok a) P := by
  intro b hb
  cases hb
  exact h

theorem reads_error {misread : Misread} : Reads (.error misread) P := nofun

theorem reads_any : Reads x fun _ => True := fun _ _ => trivial

theorem Reads.bind (hx : Reads x P) (hf : ∀ a, P a → Reads (f a) Q) : Reads (x >>= f) Q := by
  cases x with
  | ok a => exact hf a (hx a rfl)
  | error misread => exact reads_error

end

/-- A value that is read, and what follows it: each table in the value has each key once. -/
def IsKeyed (r : Setting × List Char) : Prop := r.1.Keyed

/-- Entries that are read, and what follows them: each table in them has each key once. -/
def AreKeyed (r : List (String × Setting) × List Char) : Prop := ∀ e ∈ r.1, e.2.Keyed

theorem keyed_word (text : List Char) : (word text).Keyed := by
  unfold word
  dsimp only
  repeat' split
  all_goals exact .plain rfl

/-- Each table in a value has each key once. -/
theorem reads_value (n : Nat) :
    (∀ text, Reads (value n text) IsKeyed) ∧ ∀ text, Reads (entries n text) AreKeyed := by
  -- Values and entries call each other, each time one level deeper.
  induction n with
  | zero =>
    constructor
    · intro text
      unfold value
      exact reads_error
    · intro text
      unfold entries
      exact reads_error
  | succ n ih =>
    obtain ⟨ihvalue, ihentries⟩ := ih
    constructor
    · intro text
      unfold value
      dsimp only
      split
      · exact reads_ok (.plain rfl)
      · exact reads_ok (.plain rfl)
      · split
        · exact (ihentries _).bind fun _ h => reads_ok (Settings.keyed_ofList h)
        · exact reads_any.bind fun _ _ => reads_ok (.plain rfl)
        · exact reads_any.bind fun _ _ => reads_ok (.plain rfl)
        · exact reads_ok (.plain rfl)
        · exact reads_error
        · exact reads_ok (keyed_word _)
    · intro text
      unfold entries
      split
      · exact reads_ok nofun
      · refine reads_any.bind fun (_, _) _ => reads_any.bind fun _ _ =>
          (ihvalue _).bind fun (_, _) hr => ?_
        dsimp only
        split
        · refine (ihentries _).bind fun es hes => reads_ok ?_
          exact List.forall_mem_cons.mpr ⟨hr, hes⟩
        · refine reads_any.bind fun _ _ => reads_ok ?_
          exact List.forall_mem_cons.mpr ⟨hr, nofun⟩

end VariableText

/-- The setting of a variable has each key once, at every depth. -/
theorem Setting.keyed_of_ofVariable? {written : String} {s : Setting}
    (h : Setting.ofVariable? written = some s) : s.Keyed := by
  unfold Setting.ofVariable? at h
  dsimp only at h
  split at h
  · cases h
    exact (VariableText.reads_value _).1 _ _ ‹_›
  · cases h
  · cases h
    exact .plain rfl

/-! ## Names -/

namespace Text

theorem toNat_asciiLower (c : Char) :
    (asciiLower c).toNat = if 65 ≤ c.toNat ∧ c.toNat ≤ 90 then c.toNat + 32 else c.toNat := by
  have hiff : ('A' ≤ c ∧ c ≤ 'Z') ↔ (65 ≤ c.toNat ∧ c.toNat ≤ 90) := Iff.rfl
  unfold asciiLower
  by_cases h : 'A' ≤ c ∧ c ≤ 'Z'
  · have hvalid : (c.toNat + 32).isValidChar := .inl (by have := hiff.mp h; omega)
    rw [if_pos h, if_pos (hiff.mp h), Char.ofNat, dif_pos hvalid]
    rfl
  · rw [if_neg h, if_neg (mt hiff.mpr h)]

theorem isBlank_asciiLower (c : Char) : isBlank (asciiLower c) = isBlank c := by
  unfold isBlank
  rw [toNat_asciiLower]
  split
  · rw [Bool.eq_iff_iff]
    simp
    omega
  · rfl

/-- A character that is no letter is the lower case of itself alone. -/
theorem asciiLower_eq_iff {c d : Char} (h : d.toNat < 97 ∨ 122 < d.toNat)
    (hd : d.toNat < 65 ∨ 90 < d.toNat) : asciiLower c = d ↔ c = d := by
  rw [← Char.toNat_inj, toNat_asciiLower, ← Char.toNat_inj]
  split <;> omega

theorem trimStart_map_asciiLower (text : List Char) :
    trimStart (text.map asciiLower) = (trimStart text).map asciiLower := by
  have hcomp : isBlank ∘ asciiLower = isBlank := funext isBlank_asciiLower
  rw [trimStart, List.dropWhile_map, hcomp, trimStart]

theorem trim_map_asciiLower (text : List Char) :
    trim (text.map asciiLower) = (trim text).map asciiLower := by
  simp only [trim, trimEnd, trimStart_map_asciiLower, ← List.map_reverse]

end Text

namespace Variable

theorem segments_map_asciiLower (text : List Char) :
    segments (text.map asciiLower) = (segments text).map (List.map asciiLower) := by
  have underscore (c : Char) : asciiLower c = '_' ↔ c = '_' :=
    asciiLower_eq_iff (by decide) (by decide)
  have point (c : Char) : asciiLower c = '.' ↔ c = '.' :=
    asciiLower_eq_iff (by decide) (by decide)
  -- A pair that only lower case brings out would be a pair before.
  have pair {c : Char} {rest : List Char} (h : ∀ more, c = '_' → rest = '_' :: more → False)
      (more : List Char) (hc : asciiLower c = '_') (hrest : rest.map asciiLower = '_' :: more) :
      False := by
    obtain ⟨d, more, rfl, hd, -⟩ := List.map_eq_cons_iff.mp hrest
    exact h more ((underscore c).mp hc) (by rw [(underscore d).mp hd])
  induction text using segments.induct with
  | case1 => rfl
  | case2 rest ih =>
    simp only [List.map_cons, (underscore '_').mpr rfl, segments, ih, List.map_nil]
  | case3 rest ih => simp only [List.map_cons, (point '.').mpr rfl, segments, ih, List.map_nil]
  | case4 c rest hpair hpoint s more hrest ih =>
    rw [List.map_cons, segments.eq_4 _ _ (pair hpair) (mt (point c).mp hpoint), ih,
      segments.eq_4 _ _ hpair hpoint, hrest]
    rfl
  | case5 c rest hpair hpoint hrest ih =>
    rw [List.map_cons, segments.eq_4 _ _ (pair hpair) (mt (point c).mp hpoint), ih,
      segments.eq_4 _ _ hpair hpoint, hrest]
    rfl

/-- The keys of a name after its start. -/
def keys? (rest : List Char) : Option (List String) :=
  let keys := segments (trim rest)
  if keys.any List.isEmpty then none else some (keys.map String.ofList)

theorem path?_eq (name : String) :
    path? name = ((named? (trim name.toList)).map (List.map asciiLower)).bind keys? := by
  rw [path?]
  cases hrest : named? (trim name.toList) with
  | none => rfl
  | some rest =>
    simp [keys?, trim_map_asciiLower, segments_map_asciiLower, Function.comp_def]

theorem map_named? (name : List Char) :
    (named? name).map (List.map asciiLower) =
      (if (name.map asciiLower).take start.length = start.toList.map asciiLower then
        some ((name.map asciiLower).drop start.length) else none) := by
  rw [named?, ← List.map_take, ← List.map_drop]
  split <;> rfl

/-- Names that differ in the case of their letters stand for the same keys. -/
theorem path?_congr {a b : String} (h : asciiLowerText a = asciiLowerText b) :
    path? a = path? b := by
  have htrim := congrArg trim (String.ofList_injective h)
  rw [trim_map_asciiLower, trim_map_asciiLower] at htrim
  rw [path?_eq, path?_eq, map_named?, map_named?, htrim]

/-! ## The variables of an environment -/

/-- The table of one variable. One whose name stands for no keys gives no settings. -/
def layer? : String × String → Option Settings
  | (name, value) =>
    match path? name with
    | some path => (Setting.ofVariable? value).map (Settings.nested path)
    | none => some []

theorem keyed_of_layer? {assignment : String × String} {layer : Settings}
    (h : layer? assignment = some layer) : layer.Keyed := by
  rw [layer?] at h
  split at h
  · obtain ⟨value, hvalue, rfl⟩ := Option.map_eq_some_iff.mp h
    exact Settings.keyed_nested (Setting.keyed_of_ofVariable? hvalue)
  · cases h
    exact Settings.keyed_nil

/-- A variable leaves alone what is under a key within a key. -/
def Spares (part key : String) (assignment : String × String) : Prop :=
  ∀ layer, layer? assignment = some layer → layer.isNested part = true ∧ layer.at? part key = none

end Variable

namespace Settings

open Variable

variable {environment before after : List (String × String)} {table result : Settings}
  {part key : String}

/-- The table of an environment is that of each variable over those before. -/
theorem ofVariables?_eq (environment : List (String × String)) :
    ofVariables? environment =
      (assigned environment).foldlM (fun table v => (layer? v).map (merge table)) [] := by
  rw [ofVariables?]
  congr 1
  funext table (name, value)
  rw [layer?]
  cases hpath : path? name with
  | none => simp [hpath, merge, Setting.mergeEntries]
  | some path => simp [hpath, Function.comp_def]

/-- What holds of no settings, and of a variable over what it holds of, holds of all variables. -/
theorem foldlM_variables {P : Settings → Prop} {assignments : List (String × String)}
    (h : assignments.foldlM (fun table v => (layer? v).map (merge table)) table = some result)
    (start : P table)
    (step : ∀ v ∈ assignments, ∀ layer, layer? v = some layer → ∀ t, P t → P (merge t layer)) :
    P result := by
  induction assignments generalizing table with
  | nil =>
    cases h
    exact start
  | cons v assignments ih =>
    rw [List.foldlM_cons] at h
    obtain ⟨first, hfirst, h⟩ := Option.bind_eq_some_iff.mp h
    obtain ⟨layer, hlayer, rfl⟩ := Option.map_eq_some_iff.mp hfirst
    obtain ⟨hv, hassignments⟩ := List.forall_mem_cons.mp step
    exact ih h (hv layer hlayer _ start) hassignments

/-- The table of an environment has each key once, at every depth. -/
theorem keyed_of_ofVariables? (h : ofVariables? environment = some table) : table.Keyed := by
  rw [ofVariables?_eq] at h
  exact foldlM_variables h keyed_nil fun _ _ _ hlayer _ ht => ht.merge (keyed_of_layer? hlayer)

/-- What is under a key within a key is as the variables that do not leave it alone say. -/
theorem at?_of_spared {assignments : List (String × String)}
    (h : assignments.foldlM (fun table v => (layer? v).map (merge table)) table = some result)
    (spared : ∀ v ∈ assignments, Spares part key v) : result.at? part key = table.at? part key := by
  refine foldlM_variables (P := fun t => t.at? part key = table.at? part key) h rfl ?_
  intro v hv layer hlayer t ht
  obtain ⟨nested, hnone⟩ := spared v hv layer hlayer
  rw [at?_merge (keyed_of_layer? hlayer) nested, hnone, Option.merge_none_right, ht]

/-- Where all variables leave it alone, nothing is under a key within a key. -/
theorem at?_ofVariables?_of_spared (h : ofVariables? environment = some table)
    (spared : ∀ v ∈ assigned environment, Spares part key v) : table.at? part key = none := by
  rw [ofVariables?_eq] at h
  rw [at?_of_spared h spared]
  rfl

/-- A variable that stands for a key within a key gives it its value, where the others leave it
alone. -/
theorem at?_ofVariables? {name text : String} {value : Setting}
    (h : ofVariables? environment = some table)
    (hsplit : assigned environment = before ++ (name, text) :: after)
    (hname : path? name = some [part, key]) (hvalue : Setting.ofVariable? text = some value)
    (spared : ∀ v ∈ before ++ after, Spares part key v) : table.at? part key = some value := by
  obtain ⟨hbefore, hafter⟩ := List.forall_mem_append.mp spared
  rw [ofVariables?_eq, hsplit, List.foldlM_append] at h
  obtain ⟨lower, hlower, h⟩ := Option.bind_eq_some_iff.mp h
  rw [List.foldlM_cons] at h
  obtain ⟨own, hown, h⟩ := Option.bind_eq_some_iff.mp h
  have hlayer : layer? (name, text) = some (nested [part, key] value) := by
    rw [layer?, hname]
    simp [hvalue]
  rw [hlayer] at hown
  obtain rfl := Option.some.inj hown
  have hnested : (nested [part, key] value).isNested part = true := by
    simp [nested, isNested, Setting.isTable]
  rw [at?_of_spared h hafter, at?_merge (keyed_of_layer? hlayer) hnested,
    at?_of_spared hlower hbefore]
  simp [nested, at?, Setting.get?]

end Settings

end Sheltering
