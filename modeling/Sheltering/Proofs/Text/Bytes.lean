/-!
# Texts as bytes

Texts are ordered by their characters. That is also the order of their UTF-8 bytes, in which the
database and the ledger compare them.

* `Text.bytes`: the UTF-8 bytes of a text.
* `bytes_inj`: texts with the same bytes are one.
* `bytes_lt_iff`, `compare_eq_lt`: one text is before another exactly if its bytes are.
* `length_bytes_ofList`: a text of ASCII characters has as many bytes.
-/

namespace Sheltering.Text

/-- The UTF-8 bytes of a text. -/
def bytes (s : String) : List UInt8 := s.toByteArray.data.toList

theorem bytes_ofList (cs : List Char) :
    bytes (String.ofList cs) = cs.flatMap String.utf8EncodeChar := by
  simp [bytes, String.toByteArray_ofList, List.utf8Encode]

theorem bytes_inj {s t : String} : bytes s = bytes t ↔ s = t := by
  refine ⟨fun h => ?_, congrArg _⟩
  exact String.toByteArray_inj.mp (ByteArray.ext (Array.toList_inj.mp h))

/-- A character of ASCII is one byte. -/
theorem length_bytes_ofList {cs : List Char} (h : ∀ c ∈ cs, c.toNat < 128) :
    (bytes (String.ofList cs)).length = cs.length := by
  rw [bytes_ofList]
  induction cs with
  | nil => rfl
  | cons c cs ih =>
    obtain ⟨hc, hcs⟩ := List.forall_mem_cons.mp h
    have hval : c.val ≤ 127 := UInt32.le_iff_toNat_le.mpr (Nat.le_of_lt_succ hc)
    rw [List.flatMap_cons, List.length_append, String.length_utf8EncodeChar,
      Char.utf8Size_eq_one_iff.mpr hval, ih hcs, List.length_cons, Nat.add_comm]

/-- The bytes of a smaller character come first, whatever follows. -/
theorem utf8EncodeChar_append_lt {c d : Char} (h : c < d) (x y : List UInt8) :
    String.utf8EncodeChar c ++ x < String.utf8EncodeChar d ++ y := by
  have hlt : c.val.toNat < d.val.toNat := h
  have hd : d.val.toNat < 1114112 := by
    rcases d.valid with h | h
    · exact Nat.lt_trans h (by decide)
    · exact h.2
  unfold String.utf8EncodeChar
  generalize c.val.toNat = m at *
  generalize d.val.toNat = n at *
  dsimp only
  -- One case for each pair of lengths.
  repeat' split
  all_goals simp only [List.cons_append, List.nil_append, List.cons_lt_cons_iff,
    UInt8.lt_iff_toNat_lt, ← UInt8.toNat_inj, UInt8.toNat_ofNat']
  all_goals simp (disch := omega) only [Nat.mod_eq_of_lt]
  all_goals omega

theorem flatMap_utf8EncodeChar_lt {s t : List Char} (h : s < t) :
    s.flatMap String.utf8EncodeChar < t.flatMap String.utf8EncodeChar := by
  induction s generalizing t with
  | nil =>
    cases t with
    | nil => exact absurd h (List.lt_irrefl _)
    | cons d t =>
      cases hd : String.utf8EncodeChar d with
      | nil => exact absurd hd String.utf8EncodeChar_ne_nil
      | cons b bs => simp [List.flatMap_cons, hd]
  | cons c s ih =>
    cases t with
    | nil => cases h
    | cons d t =>
      rcases List.cons_lt_cons_iff.mp h with hcd | ⟨rfl, hst⟩
      · exact utf8EncodeChar_append_lt hcd _ _
      · exact List.append_left_lt (ih hst)

theorem bytes_lt_bytes {s t : String} (h : s < t) : bytes s < bytes t := by
  have := flatMap_utf8EncodeChar_lt (s := s.toList) (t := t.toList) h
  rwa [← bytes_ofList, ← bytes_ofList, String.ofList_toList, String.ofList_toList] at this

/-- The order of texts is the order of their bytes. -/
theorem bytes_lt_iff {s t : String} : bytes s < bytes t ↔ s < t := by
  refine ⟨fun h => Decidable.byContradiction fun hn => ?_, bytes_lt_bytes⟩
  by_cases e : s = t
  · subst e
    exact List.lt_irrefl _ h
  · have hlt : t < s := String.not_le.mp fun hst => e (String.le_antisymm hst hn)
    exact List.lt_asymm (bytes_lt_bytes hlt) h

theorem compare_eq_lt {s t : String} : compare s t = .lt ↔ bytes s < bytes t := by
  rw [bytes_lt_iff]
  exact compareOfLessAndEq_eq_lt

end Sheltering.Text
