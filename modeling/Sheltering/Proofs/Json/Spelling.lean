import Sheltering.Proofs.Json.Numeral

/-!
# Values and their texts

The text of a value without doubles is read back as that value.

* `Json.IsPlain`: a value that has no doubles, whose integers fit 64 bits and whose containers are
  nested at most a number of levels deep. The members of an object stand in the order of their keys.
* `Written.resume`: reads a text whose beginning has been read.
* `Written.Spells`: wherever a value may stand, some text is read as that value.
* `Json.exists_spelling`: the text of a plain value is read as that value.
* `Json.ofText?_render`: a plain value that is written and read again.
-/

namespace Sheltering

namespace Json

mutual

/-- A value without doubles, its containers nested at most `depth` deep. -/
def IsPlain (depth : Nat) : Json → Prop
  | .null | .bool _ | .str _ => True
  | .int n => -9223372036854775808 ≤ n ∧ n < 18446744073709551616
  | .float _ => False
  | .arr items => 0 < depth ∧ ItemsPlain (depth - 1) items
  | .obj members =>
    0 < depth ∧ members.Pairwise (fun a b => a.1 < b.1) ∧ MembersPlain (depth - 1) members

/-- Items that are plain values. -/
def ItemsPlain (depth : Nat) : List Json → Prop
  | [] => True
  | v :: rest => v.IsPlain depth ∧ ItemsPlain depth rest

/-- Members with plain values. -/
def MembersPlain (depth : Nat) : List (String × Json) → Prop
  | [] => True
  | (_, v) :: rest => v.IsPlain depth ∧ MembersPlain depth rest

end

/-! ## Sorted members -/

theorem insertMember_eq_append {key : String} {value : Json} {members : List (String × Json)}
    (h : ∀ m ∈ members, m.1 < key) :
    insertMember key value members = members ++ [(key, value)] := by
  induction members with
  | nil => rfl
  | cons m members ih =>
    obtain ⟨hm, hmembers⟩ := List.forall_mem_cons.mp h
    rw [insertMember, if_neg (String.lt_asymm hm), if_neg fun he => String.lt_irrefl _ (he ▸ hm),
      ih hmembers]
    rfl

/-- The object of members that are sorted has those members. -/
theorem object_eq_obj {members : List (String × Json)}
    (h : members.Pairwise fun a b => a.1 < b.1) : object members = .obj members := by
  suffices hfold : ∀ sorted, (sorted ++ members).Pairwise (fun a b => a.1 < b.1) →
      members.foldl (fun sorted m => insertMember m.1 m.2 sorted) sorted = sorted ++ members from
    congrArg obj (hfold [] h)
  clear h
  induction members with
  | nil => simp
  | cons m members ih =>
    intro sorted h
    have hlast : insertMember m.1 m.2 sorted = sorted ++ [m] := insertMember_eq_append fun a ha =>
      (List.pairwise_append.mp h).2.2 a ha m List.mem_cons_self
    have hmore := ih (sorted ++ [m]) (by simpa using h)
    rw [List.append_assoc, List.singleton_append, ← hlast] at hmore
    exact hmore

end Json

namespace Written

variable {c : Char} {state state' : LexState} {e e' : Expecting} {frames frames' : List Frame}
  {t : Token} {rest : List Char}

/-- Reads a text whose beginning has been read. -/
def resume (state : LexState) (e : Expecting) (frames : List Frame) (text : List Char) :
    Option Written := do
  let tokens ← lex state text
  build e frames tokens

theorem resume_cons (state : LexState) (e : Expecting) (frames : List Frame) (c : Char)
    (rest : List Char) : resume state e frames (c :: rest) = (lexStep c state).bind fun p =>
      (lex p.2 rest).bind fun tokens => build e frames (p.1 ++ tokens) := by
  have hlex : lex state (c :: rest) = (lexStep c state).bind fun p =>
      (lex p.2 rest).bind fun tokens => some (p.1 ++ tokens) := by
    cases state <;> rfl
  rw [resume, hlex, Option.bind_eq_bind, Option.bind_assoc]
  simp only [Option.bind_assoc, Option.bind_some]

theorem build_cons (t : Token) (e : Expecting) (frames : List Frame) (rest : List Token) :
    build e frames (t :: rest) =
      (buildStepOrClose t e frames).bind fun p => build p.1 p.2 rest := by
  cases e <;> cases frames <;> rfl

/-- A character that completes no token. -/
theorem resume_silent (h : lexStep c state = some ([], state')) :
    resume state e frames (c :: rest) = resume state' e frames rest := by
  rw [resume_cons, h]
  rfl

/-- A character that completes a token. -/
theorem resume_token (h : lexStep c state = some ([t], state'))
    (hb : buildStepOrClose t e frames = some (e', frames')) :
    resume state e frames (c :: rest) = resume state' e' frames' rest := by
  rw [resume_cons, h, resume, Option.bind_some, Option.bind_eq_bind]
  refine congrArg _ (funext fun tokens => ?_)
  rw [List.singleton_append, build_cons, hb]
  rfl

/-! ## Words -/

/-- A value may stand here. -/
def TakesValue (e : Expecting) : Prop := e = .value ∨ e = .valueOrClose

/-- What follows does not go on with a word. -/
def EndsWord (text : List Char) : Prop := ∀ c ∈ text.head?, isWordChar c = false

theorem lexGround_of_isWordChar (h : isWordChar c = true) : lexGround c = some ([], .word [c]) := by
  have hblank : isBlank c = false := by
    refine Bool.eq_false_iff.mpr fun hblank => ?_
    simp only [isBlank, Bool.or_eq_true, beq_iff_eq] at hblank
    rcases hblank with ((rfl | rfl) | rfl) | rfl <;> exact absurd h (by decide)
  have hquote : c ≠ '"' := by
    rintro rfl
    exact absurd h (by decide)
  rw [lexGround, hblank, if_neg (by decide), if_neg hquote, if_pos h]

theorem resume_word_append {word done : List Char} (h : ∀ c ∈ word, isWordChar c = true) :
    resume (.word done) e frames (word ++ rest) =
      resume (.word (word.reverse ++ done)) e frames rest := by
  induction word generalizing done with
  | nil => rfl
  | cons c word ih =>
    obtain ⟨hc, hword⟩ := List.forall_mem_cons.mp h
    have hstep : lexStep c (.word done) = some ([], .word (c :: done)) := if_pos hc
    rw [List.cons_append, resume_silent hstep, ih hword, List.reverse_cons, List.append_assoc]
    rfl

theorem buildStepOrClose_atom (he : TakesValue e) (w : Written) :
    buildStepOrClose (.atom w) e frames = some (.afterValue w, frames) := by
  rcases he with rfl | rfl <;> rfl

theorem resume_word_end {w : Written} {done : List Char} (ha : atom? done.reverse = some w)
    (he : TakesValue e) (hrest : EndsWord rest) :
    resume (.word done) e frames rest = resume .ground (.afterValue w) frames rest := by
  cases rest with
  | nil => simp [resume, lex, ha, build_cons, buildStepOrClose_atom he]
  | cons c rest =>
    have hc : isWordChar c = false := hrest c rfl
    rw [resume_cons, resume_cons]
    simp only [lexStep, hc, Bool.false_eq_true, if_false, ha]
    cases lexGround c with
    | none => rfl
    | some p =>
      show ((lex p.2 rest).bind fun tokens => build e frames (.atom w :: (p.1 ++ tokens))) = _
      refine congrArg _ (funext fun tokens => ?_)
      rw [build_cons, buildStepOrClose_atom he]
      rfl

/-- A word that stands where a value may stand. -/
theorem resume_word {w : Written} {word : List Char} (hword : ∀ c ∈ word, isWordChar c = true)
    (ha : atom? word = some w) (he : TakesValue e) (hrest : EndsWord rest) :
    resume .ground e frames (word ++ rest) = resume .ground (.afterValue w) frames rest := by
  have hne : word ≠ [] := by
    rintro rfl
    exact Option.some_ne_none w ha.symm
  obtain ⟨c, word, rfl⟩ := List.exists_cons_of_ne_nil hne
  obtain ⟨hc, hmore⟩ := List.forall_mem_cons.mp hword
  have hstep : lexStep c .ground = some ([], .word [c]) := lexGround_of_isWordChar hc
  have hrev : (word.reverse ++ [c]).reverse = c :: word := by simp
  rw [List.cons_append, resume_silent hstep, resume_word_append hmore,
    resume_word_end (by rw [hrev, ha]) he hrest]

/-! ## Strings -/

/-- Some characters of a string are read as one unit, and that unit stands for `c`. -/
structure ReadsAs (text : List Char) (u : StringUnit) (c : Char) : Prop where
  stands : ∀ units, unitsChars? (u :: units) = (unitsChars? units).map (c :: ·)
  resume : ∀ units e frames rest,
    resume (.string units) e frames (text ++ rest) = resume (.string (u :: units)) e frames rest

/-- A backslash and a letter. -/
theorem readsAs_escape {letter : Char} (h : escaped? letter = some c) :
    ReadsAs ['\\', letter] (.char c) c where
  stands _ := rfl
  resume units e frames rest := by
    have hletter : letter ≠ 'u' := by
      rintro rfl
      cases h
    have hstep : lexStep letter (.escape units) = some ([], .string (.char c :: units)) := by
      rw [lexStep, if_neg hletter, h]
      rfl
    exact (resume_silent rfl).trans (resume_silent hstep)

/-- A control character in hexadecimal digits. -/
theorem readsAs_controlEscape (h : c.toNat < 0x20) :
    ReadsAs (Json.controlEscape c) (.code c.toNat) c where
  stands units := by
    -- The code is no surrogate, so it does not look at what follows.
    rw [unitsChars?.eq_def]
    exact (if_neg (by omega)).trans ((if_neg (by omega)).trans (by rw [Char.ofNat_toNat]))
  resume units e frames rest := by
    have hhigh : lexStep (Nat.digitChar (c.toNat / 16)) (.code units 2 0) =
        some ([], .code units 1 (c.toNat / 16)) := by
      rw [lexStep, Text.hexDigit?_digitChar (by omega)]
      simp
    have hlow : lexStep (Nat.digitChar (c.toNat % 16)) (.code units 1 (c.toNat / 16)) =
        some ([], .string (.code c.toNat :: units)) := by
      rw [lexStep, Text.hexDigit?_digitChar (Nat.mod_lt _ (by decide))]
      simp [Nat.div_add_mod]
    have hzeros : Written.resume (.string units) e frames (Json.controlEscape c ++ rest) =
        Written.resume (.code units 2 0) e frames
          (Nat.digitChar (c.toNat / 16) :: Nat.digitChar (c.toNat % 16) :: rest) :=
      (resume_silent rfl).trans ((resume_silent rfl).trans
        ((resume_silent rfl).trans (resume_silent rfl)))
    rw [hzeros, resume_silent hhigh, resume_silent hlow]

/-- A character that stands for itself. -/
theorem readsAs_self (hquote : c ≠ '"') (hslash : c ≠ '\\') (hhigh : ¬ c.toNat < 0x20) :
    ReadsAs [c] (.char c) c where
  stands _ := rfl
  resume units e frames rest := by
    refine resume_silent ?_
    rw [lexStep, if_neg hquote, if_neg hslash, if_neg hhigh]

theorem exists_readsAs (c : Char) : ∃ u, ReadsAs (Json.escapeChar c) u c := by
  unfold Json.escapeChar
  split
  case h_8 hquote hslash _ _ _ _ _ =>
    split
    · exact ⟨_, readsAs_controlEscape ‹_›⟩
    · exact ⟨_, readsAs_self hquote hslash ‹_›⟩
  all_goals exact ⟨_, readsAs_escape rfl⟩

/-- The characters of a string up to its end are read as units that stand for them. -/
theorem exists_units (cs : List Char) : ∃ units, unitsChars? units = some cs ∧
    ∀ done e frames rest, resume (.string done) e frames (cs.flatMap Json.escapeChar ++ rest) =
      resume (.string (units.reverse ++ done)) e frames rest := by
  induction cs with
  | nil => exact ⟨[], rfl, fun _ _ _ _ => rfl⟩
  | cons c cs ih =>
    obtain ⟨u, hu⟩ := exists_readsAs c
    obtain ⟨units, hunits, hcs⟩ := ih
    refine ⟨u :: units, by rw [hu.stands, hunits]; rfl, fun done e frames rest => ?_⟩
    rw [List.flatMap_cons, List.append_assoc, hu.resume, hcs, List.reverse_cons, List.append_assoc]
    rfl

/-- A string in its quotes is one token, and that token has the text of the string. -/
theorem exists_string (s : String) : ∃ units, unitsText? units = some s ∧
    ∀ e frames e' frames' rest,
      buildStepOrClose (.string units) e frames = some (e', frames') →
      resume .ground e frames ((Json.quote s).toList ++ rest) =
        resume .ground e' frames' rest := by
  obtain ⟨units, hunits, hresume⟩ := exists_units s.toList
  refine ⟨units, ?_, fun e frames e' frames' rest hb => ?_⟩
  · rw [unitsText?, hunits, Option.map_some, String.ofList_toList]
  · have hopen : resume .ground e frames ((Json.quote s).toList ++ rest) =
        resume (.string []) e frames (s.toList.flatMap Json.escapeChar ++ '"' :: rest) := by
      rw [Json.quote, String.toList_ofList, List.append_assoc]
      exact resume_silent rfl
    have hclose : lexStep '"' (.string units.reverse) = some ([.string units], .ground) := by
      simp [lexStep]
    rw [hopen, hresume, List.append_nil, resume_token hclose hb]

/-! ## Values -/

/-- Wherever a value may stand, its text is read as `w`. -/
structure Spells (depth : Nat) (v : Json) (w : Written) : Prop where
  value : w.toJson? depth = some v
  resume : ∀ {e frames rest}, TakesValue e → EndsWord rest →
    resume .ground e frames (v.render.toList ++ rest) = resume .ground (.afterValue w) frames rest

/-- In an array that was just opened, or behind the comma after other items, some items and the end
of the array are read as `ws`. -/
structure SpellsItems (depth : Nat) (items : List Json) (ws : List Written) : Prop where
  values : itemsToJson? depth ws = some items
  resume : ∀ {e done frames rest}, TakesValue e → (items = [] → e = .valueOrClose ∧ done = []) →
    resume .ground e (.array done :: frames) ((Json.renderItems items).toList ++ ']' :: rest) =
      resume .ground (.afterValue (.array (done.reverse ++ ws))) frames rest

/-- In an object that was just opened, or behind the comma after other members, some members and the
end of the object are read as `ws`. -/
structure SpellsMembers (depth : Nat) (members : List (String × Json))
    (ws : List (List StringUnit × Written)) : Prop where
  values : membersToJson? depth ws = some members
  resume : ∀ {e done frames rest}, e = .keyOrClose ∧ done = [] ∨ e = .key done ∧ members ≠ [] →
    resume .ground e frames ((Json.renderMembers members).toList ++ '\x7d' :: rest) =
      resume .ground (.afterValue (.object (done.reverse ++ ws))) frames rest

variable {depth : Nat}

theorem Spells.ofWord {v : Json} {w : Written} (hvalue : w.toJson? depth = some v)
    (hword : v.render.toList.all isWordChar = true) (ha : atom? v.render.toList = some w) :
    Spells depth v w where
  value := hvalue
  resume he hrest := resume_word (List.all_eq_true.mp hword) ha he hrest

theorem spells_null : Spells depth .null .null :=
  .ofWord rfl rfl rfl

theorem spells_bool (b : Bool) : Spells depth (.bool b) (.bool b) := by
  cases b <;> exact .ofWord rfl rfl rfl

theorem eq_minus_or_isDigit {n : Int} (h : c ∈ (toString n).toList) :
    c = '-' ∨ c.isDigit = true := by
  rw [Numeral.toList_toString] at h
  have hdigits : c ∈ Nat.toDigits 10 n.natAbs → c.isDigit = true :=
    Nat.isDigit_of_mem_toDigits (by decide) (by decide)
  split at h
  · exact (List.mem_cons.mp h).imp_right hdigits
  · exact .inr (hdigits h)

theorem isWordChar_of_mem_toString {n : Int} (h : c ∈ (toString n).toList) :
    isWordChar c = true := by
  rcases eq_minus_or_isDigit h with rfl | hdigit
  · decide
  · simp only [Char.isDigit, Bool.and_eq_true, decide_eq_true_eq] at hdigit
    have hrange : (decide ('0' ≤ c) && decide (c ≤ '9')) = true := by
      rw [decide_eq_true (p := '0' ≤ c) hdigit.1, decide_eq_true (p := c ≤ '9') hdigit.2]
      rfl
    simp only [isWordChar, hrange, Bool.true_or]

theorem atom?_toString (n : Int) : atom? (toString n).toList = some (.number (.ofInt n)) := by
  have hword : ∀ {first : Char} {more : List Char}, first ≠ '-' → first.isDigit = false →
      (toString n).toList ≠ first :: more := by
    intro first more hminus hdigit heq
    rcases eq_minus_or_isDigit (n := n) (heq ▸ List.mem_cons_self) with h | h
    · exact hminus h
    · exact Bool.eq_false_iff.mp hdigit h
  rw [atom?, if_neg (hword (by decide) (by decide)), if_neg (hword (by decide) (by decide)),
    if_neg (hword (by decide) (by decide)), Numeral.ofChars?_toString]
  rfl

theorem spells_int {n : Int} (h : -9223372036854775808 ≤ n ∧ n < 18446744073709551616) :
    Spells depth (.int n) (.number (.ofInt n)) :=
  .ofWord (by rw [toJson?, Numeral.value?_ofInt h]; rfl)
    (List.all_eq_true.mpr fun _ => isWordChar_of_mem_toString) (atom?_toString n)

theorem exists_spells_str (s : String) : ∃ w, Spells depth (.str s) w := by
  obtain ⟨units, hunits, hresume⟩ := exists_string s
  refine ⟨.string units, by rw [toJson?, hunits]; rfl, fun he _ => hresume _ _ _ _ _ ?_⟩
  rcases he with rfl | rfl <;> rfl

/-! ## Containers -/

theorem endsWord_mark (h : isWordChar c = false) : EndsWord (c :: rest) := by
  rintro d ⟨⟩
  exact h

variable {v : Json} {w : Written} {items : List Json} {ws : List Written} {key : String}
  {members : List (String × Json)} {ms : List (List StringUnit × Written)}

theorem spellsItems_nil : SpellsItems depth [] [] where
  values := rfl
  resume _ h := by
    obtain ⟨rfl, rfl⟩ := h rfl
    exact resume_token rfl rfl

theorem Spells.items_singleton (hv : Spells depth v w) : SpellsItems depth [v] [w] where
  values := by rw [itemsToJson?, hv.value]; rfl
  resume he _ := by
    rw [Json.renderItems, hv.resume he (endsWord_mark rfl), resume_token rfl rfl, List.reverse_cons]

theorem Spells.items_cons (hv : Spells depth v w) (hi : SpellsItems depth items ws)
    (hne : items ≠ []) : SpellsItems depth (v :: items) (w :: ws) where
  values := by rw [itemsToJson?, hv.value, hi.values]; rfl
  resume {e done frames rest} he _ := by
    have htext : (Json.renderItems (v :: items)).toList ++ ']' :: rest =
        v.render.toList ++ ',' :: ((Json.renderItems items).toList ++ ']' :: rest) := by
      rw [Json.renderItems.eq_3 _ _ hne, String.toList_append, String.toList_append,
        List.append_assoc, List.append_assoc]
      rfl
    have hcomma : buildStepOrClose .comma (.afterValue w) (.array done :: frames) =
        some (.value, .array (w :: done) :: frames) := rfl
    rw [htext, hv.resume he (endsWord_mark rfl), resume_token rfl hcomma,
      hi.resume (.inl rfl) (absurd · hne), List.reverse_cons, List.append_assoc]
    rfl

theorem SpellsItems.arr (hi : SpellsItems (depth - 1) items ws) (h : 0 < depth) :
    Spells depth (.arr items) (.array ws) where
  value := by rw [toJson?, if_neg (Nat.ne_of_gt h), hi.values]; rfl
  resume {e frames rest} he _ := by
    have htext : (Json.arr items).render.toList ++ rest =
        '[' :: ((Json.renderItems items).toList ++ ']' :: rest) := by
      rw [Json.render, String.toList_append, String.toList_append, List.append_assoc,
        List.append_assoc]
      rfl
    have hopen : buildStepOrClose .openArray e frames =
        some (.valueOrClose, .array [] :: frames) := by
      rcases he with rfl | rfl <;> rfl
    rw [htext, resume_token rfl hopen, hi.resume (.inr rfl) fun _ => ⟨rfl, rfl⟩]
    rfl

theorem spellsMembers_nil : SpellsMembers depth [] [] where
  values := rfl
  resume h := by
    obtain ⟨rfl, rfl⟩ | ⟨_, hne⟩ := h
    · exact resume_token rfl rfl
    · exact absurd rfl hne

/-- The key of a member and the colon behind it. -/
theorem exists_key (key : String) : ∃ units, unitsText? units = some key ∧
    ∀ {e done frames rest}, e = .keyOrClose ∧ done = [] ∨ e = .key done →
      resume .ground e frames ((Json.quote key).toList ++ ':' :: rest) =
        resume .ground .value (.object done units :: frames) rest := by
  obtain ⟨units, hunits, hresume⟩ := exists_string key
  refine ⟨units, hunits, fun {e done frames rest} he => ?_⟩
  have hkey : buildStepOrClose (.string units) e frames = some (.colon done units, frames) := by
    obtain ⟨rfl, rfl⟩ | rfl := he <;> rfl
  rw [hresume _ _ _ _ _ hkey, resume_token rfl rfl]

theorem Spells.exists_members_singleton (hv : Spells depth v w) (key : String) :
    ∃ units, SpellsMembers depth [(key, v)] [(units, w)] := by
  obtain ⟨units, hunits, hkey⟩ := exists_key key
  refine ⟨units, by rw [membersToJson?, hunits, hv.value]; rfl, fun {e done frames rest} he => ?_⟩
  have htext : (Json.renderMembers [(key, v)]).toList ++ '\x7d' :: rest =
      (Json.quote key).toList ++ ':' :: (v.render.toList ++ '\x7d' :: rest) := by
    rw [Json.renderMembers, String.toList_append, String.toList_append, List.append_assoc,
      List.append_assoc]
    rfl
  rw [htext, hkey (he.imp_right And.left), hv.resume (.inl rfl) (endsWord_mark rfl),
    resume_token rfl rfl, List.reverse_cons]

theorem Spells.exists_members_cons (hv : Spells depth v w) (hm : SpellsMembers depth members ms)
    (hne : members ≠ []) (key : String) :
    ∃ units, SpellsMembers depth ((key, v) :: members) ((units, w) :: ms) := by
  obtain ⟨units, hunits, hkey⟩ := exists_key key
  refine ⟨units, by rw [membersToJson?, hunits, hv.value, hm.values]; rfl,
    fun {e done frames rest} he => ?_⟩
  have htext : (Json.renderMembers ((key, v) :: members)).toList ++ '\x7d' :: rest =
      (Json.quote key).toList ++ ':' ::
        (v.render.toList ++ ',' :: ((Json.renderMembers members).toList ++ '\x7d' :: rest)) := by
    rw [Json.renderMembers.eq_3 _ _ _ hne]
    simp only [String.toList_append, List.append_assoc]
    rfl
  have hcomma : buildStepOrClose .comma (.afterValue w) (.object done units :: frames) =
      some (.key ((units, w) :: done), frames) := rfl
  rw [htext, hkey (he.imp_right And.left), hv.resume (.inl rfl) (endsWord_mark rfl),
    resume_token rfl hcomma, hm.resume (.inr ⟨rfl, hne⟩), List.reverse_cons, List.append_assoc]
  rfl

theorem SpellsMembers.obj (hm : SpellsMembers (depth - 1) members ms) (h : 0 < depth)
    (hsorted : members.Pairwise fun a b => a.1 < b.1) :
    Spells depth (.obj members) (.object ms) where
  value := by
    rw [toJson?, if_neg (Nat.ne_of_gt h), hm.values, Option.map_some, Json.object_eq_obj hsorted]
  resume {e frames rest} he _ := by
    have htext : (Json.obj members).render.toList ++ rest =
        '\x7b' :: ((Json.renderMembers members).toList ++ '\x7d' :: rest) := by
      rw [Json.render, String.toList_append, String.toList_append, List.append_assoc,
        List.append_assoc]
      rfl
    have hopen : buildStepOrClose .openObject e frames = some (.keyOrClose, frames) := by
      rcases he with rfl | rfl <;> rfl
    rw [htext, resume_token rfl hopen, hm.resume (.inl ⟨rfl, rfl⟩)]
    rfl

end Written

namespace Json

open Written

mutual

/-- The text of a plain value is read as that value. -/
theorem exists_spelling {depth : Nat} : ∀ {v : Json}, v.IsPlain depth → ∃ w, Spells depth v w
  | .null, _ => ⟨_, spells_null⟩
  | .bool b, _ => ⟨_, spells_bool b⟩
  | .int _, h => ⟨_, spells_int h⟩
  | .str s, _ => exists_spells_str s
  | .arr _, h =>
    have ⟨_, hi⟩ := exists_items_spelling h.2
    ⟨_, hi.arr h.1⟩
  | .obj _, h =>
    have ⟨_, hm⟩ := exists_members_spelling h.2.2
    ⟨_, hm.obj h.1 h.2.1⟩

/-- The text of plain items is read as those items. -/
theorem exists_items_spelling {depth : Nat} :
    ∀ {items : List Json}, ItemsPlain depth items → ∃ ws, SpellsItems depth items ws
  | [], _ => ⟨_, spellsItems_nil⟩
  | [_], h =>
    have ⟨_, hv⟩ := exists_spelling h.1
    ⟨_, hv.items_singleton⟩
  | _ :: _ :: _, h =>
    have ⟨_, hv⟩ := exists_spelling h.1
    have ⟨_, hi⟩ := exists_items_spelling h.2
    ⟨_, hv.items_cons hi (List.cons_ne_nil _ _)⟩

/-- The text of members with plain values is read as those members. -/
theorem exists_members_spelling {depth : Nat} : ∀ {members : List (String × Json)},
    MembersPlain depth members → ∃ ms, SpellsMembers depth members ms
  | [], _ => ⟨_, spellsMembers_nil⟩
  | [(key, _)], h =>
    have ⟨_, hv⟩ := exists_spelling h.1
    have ⟨_, hm⟩ := hv.exists_members_singleton key
    ⟨_, hm⟩
  | (key, _) :: _ :: _, h =>
    have ⟨_, hv⟩ := exists_spelling h.1
    have ⟨_, hms⟩ := exists_members_spelling h.2
    have ⟨_, hm⟩ := hv.exists_members_cons hms (List.cons_ne_nil _ _) key
    ⟨_, hm⟩

end

/-- A plain value that is written and read again. -/
theorem ofText?_render {v : Json} (h : v.IsPlain depthLimit) : ofText? v.render = some v := by
  obtain ⟨w, hw⟩ := exists_spelling h
  have hread : Written.ofText? v.render = some w := by
    have hend : EndsWord [] := by
      rintro c ⟨⟩
    have hresume : resume .ground .value [] (v.render.toList ++ []) = some w :=
      hw.resume (.inl rfl) hend
    rwa [List.append_nil] at hresume
  rw [ofText?, hread]
  exact hw.value

end Json

end Sheltering
