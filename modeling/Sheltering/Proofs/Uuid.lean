import Sheltering.Proofs.Text.Digits
import Sheltering.Uuid

/-!
# Written identifiers

* `Uuid.ofText?_text`: the text of an identifier is read as that identifier.
* `Uuid.text_inj`: identifiers with one text are one.
-/

namespace Sheltering.Uuid

/-! ## Digits -/

/-- The last `k` hexadecimal digits of a number. -/
def lastDigits (v : Nat) : Nat → List Char
  | 0 => []
  | k + 1 => Nat.digitChar (v / Nat.pow 16 k % 16) :: lastDigits v k

theorem length_lastDigits (v k : Nat) : (lastDigits v k).length = k := by
  induction k with
  | zero => rfl
  | succ k ih => rw [lastDigits, List.length_cons, ih]

theorem map_range_eq_lastDigits (v k : Nat) :
    (List.range k).map (fun i => Nat.digitChar (v / Nat.pow 16 (k - 1 - i) % 16)) =
      lastDigits v k := by
  induction k with
  | zero => rfl
  | succ k ih =>
    rw [List.range_succ_eq_map, List.map_cons, List.map_map, lastDigits, ← ih]
    refine congrArg _ (List.map_congr_left fun i hi => ?_)
    have hi : i < k := List.mem_range.mp hi
    rw [Function.comp, show k + 1 - 1 - (i + 1) = k - 1 - i by omega]

theorem digits_eq (u : Uuid) : u.digits = lastDigits u.value.toNat 32 :=
  map_range_eq_lastDigits _ 32

theorem number?_lastDigits (v k n : Nat) :
    number? n (lastDigits v k) = some (n * Nat.pow 16 k + v % Nat.pow 16 k) := by
  induction k generalizing n with
  | zero => simp [lastDigits, number?, Nat.mod_one]
  | succ k ih =>
    have hm : v % Nat.pow 16 (k + 1) = v % Nat.pow 16 k + Nat.pow 16 k * (v / Nat.pow 16 k % 16) :=
      Nat.mod_pow_succ
    have hp : Nat.pow 16 (k + 1) = 16 * Nat.pow 16 k := Nat.mul_comm _ _
    rw [lastDigits, number?, Text.hexDigit?_digitChar (Nat.mod_lt _ (by decide)), Option.bind_some,
      ih, hm, hp]
    grind

theorem ofDigits?_digits (u : Uuid) : ofDigits? u.digits = some u := by
  have hlt : u.value.toNat < Nat.pow 16 32 := u.value.isLt
  rw [digits_eq, ofDigits?, if_pos (length_lastDigits _ _), number?_lastDigits, Option.map_some,
    Nat.mod_eq_of_lt hlt]
  simp

/-! ## Groups -/

/-- The digits of some groups. -/
def total : List Nat → Nat
  | [] => 0
  | n :: ns => n + total ns

@[simp] theorem total_nil : total [] = 0 := rfl

@[simp] theorem total_cons (n : Nat) (ns : List Nat) : total (n :: ns) = n + total ns := rfl

theorem length_hyphenate {ns : List Nat} {cs : List Char} (hn : ns ≠ [])
    (h : cs.length = total ns) : (hyphenate ns cs).length + 1 = total ns + ns.length := by
  fun_induction hyphenate ns cs with
  | case1 => exact absurd rfl hn
  | case2 n cs => simp_all
  | case3 n ns cs hne ih =>
    have := ih hne (by simp_all)
    simp_all
    omega

theorem ungroup?_hyphenate {ns : List Nat} {cs : List Char} (hn : ns ≠ [])
    (h : cs.length = total ns) :
    ungroup? ns (hyphenate ns cs) = some cs := by
  fun_induction hyphenate ns cs with
  | case1 => exact absurd rfl hn
  | case2 n cs =>
    have h : cs.length = n := by simpa using h
    subst h
    simp [ungroup?]
  | case3 n ns cs hne ih =>
    have hl : (cs.take n).length = n := by simp_all
    have hd : (cs.take n ++ '-' :: hyphenate ns (cs.drop n)).drop n =
        '-' :: hyphenate ns (cs.drop n) := by
      rw [List.drop_append_of_le_length (by omega), List.drop_of_length_le (by omega)]
      rfl
    have ht : (cs.take n ++ '-' :: hyphenate ns (cs.drop n)).take n = cs.take n := by
      rw [List.take_append_of_le_length (by omega), List.take_of_length_le (by omega)]
    rw [ungroup?.eq_3 _ _ _ hne, hd, ht]
    simp only [ih hne (by simp_all), Option.map_some, List.take_append_drop]

theorem ofText?_text (u : Uuid) : ofText? u.text = some u := by
  have hl : u.digits.length = total groups := by rw [digits_eq, length_lastDigits]; rfl
  have h36 : (hyphenate groups u.digits).length = 36 := by
    have := length_hyphenate (by decide) hl
    exact Nat.succ.inj this
  simp only [ofText?, text, String.toList_ofList, h36, ofHyphenated?,
    ungroup?_hyphenate (by decide) hl, Option.bind_some, ofDigits?_digits]

theorem text_inj {u v : Uuid} : u.text = v.text ↔ u = v := by
  refine ⟨fun h => ?_, congrArg _⟩
  have hu := ofText?_text u
  rw [h, ofText?_text v] at hu
  exact (Option.some.inj hu).symm

end Sheltering.Uuid
