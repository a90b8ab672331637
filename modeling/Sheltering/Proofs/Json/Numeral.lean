import Sheltering.Json.Written
import Sheltering.Proofs.Text.Digits

/-!
# Written integers

* `Numeral.ofInt`: how an integer is spelled.
* `Numeral.ofChars?_toString`: the text of an integer is read as that spelling.
* `Numeral.value?_ofInt`: the value of that spelling is the integer, if it fits 64 bits.
-/

namespace Sheltering

open Text

namespace Text

/-- The digits of a number, as many as it takes. -/
def shortDigits (n : Nat) : List Nat := digitsOf (Nat.toDigits 10 n).length n

theorem length_toDigits_pos (n : Nat) : 0 < (Nat.toDigits 10 n).length := by
  rcases Nat.lt_or_ge n 10 with h | h
  · simp [Nat.toDigits_of_lt_base h]
  · simp [Nat.toDigits_of_base_le (by decide) h]

theorem lt_pow_length_toDigits (n : Nat) : n < Nat.pow 10 (Nat.toDigits 10 n).length :=
  (Nat.length_toDigits_le_iff (by decide) (length_toDigits_pos n)).mp (Nat.le_refl _)

theorem ofDigits_shortDigits (n : Nat) : ofDigits (shortDigits n) = n :=
  ofDigits_digitsOf (lt_pow_length_toDigits n)

/-- The digits of a number are read whole. -/
theorem spanAllDigits_toDigits (n : Nat) :
    spanAllDigits (Nat.toDigits 10 n) = (shortDigits n, []) := by
  have hspan := spanDigits_padded (length_toDigits_pos n) (lt_pow_length_toDigits n) 0 []
  have hpadded : padded (Nat.toDigits 10 n).length n = Nat.toDigits 10 n := by
    rw [padded, Nat.sub_self, List.replicate_zero, List.nil_append]
  rw [Nat.add_zero, List.append_nil, hpadded] at hspan
  rw [spanAllDigits, hspan, spanDigits, List.append_nil]
  rfl

theorem head?_digitsOf (w n : Nat) :
    (digitsOf (w + 1) n).head? = some (n / Nat.pow 10 w % 10) := by
  induction w generalizing n with
  | zero => simp [digitsOf]
  | succ w ih =>
    rw [digitsOf, List.head?_append, ih, Option.some_or, Nat.div_div_eq_div_mul, Nat.mul_comm]
    rfl

/-- No digits but those of zero begin with a zero. -/
theorem shortDigits_ne_zero_cons {n d : Nat} {ds : List Nat} : shortDigits n ≠ 0 :: d :: ds := by
  intro h
  obtain ⟨w, hw⟩ : ∃ w, (Nat.toDigits 10 n).length = w + 2 := by
    have := congrArg List.length h
    rw [shortDigits, length_digitsOf] at this
    exact ⟨ds.length, this⟩
  have hhead := head?_digitsOf (w + 1) n
  rw [shortDigits, hw] at h
  rw [h, List.head?_cons, Option.some.injEq] at hhead
  have hlow : Nat.pow 10 (w + 1) ≤ n := by
    refine Nat.not_lt.mp fun hlt => ?_
    have := (Nat.length_toDigits_le_iff (by decide) (Nat.succ_pos w)).mpr hlt
    omega
  have hhigh : n / Nat.pow 10 (w + 1) < 10 := by
    have := lt_pow_length_toDigits n
    rw [hw] at this
    exact Nat.div_lt_of_lt_mul this
  have hpos : 0 < n / Nat.pow 10 (w + 1) := Nat.div_pos hlow (Nat.pow_pos (by decide))
  omega

theorem shortDigits_ne_nil (n : Nat) : shortDigits n ≠ [] := by
  rw [← List.length_pos_iff, shortDigits, length_digitsOf]
  exact length_toDigits_pos n

theorem shortDigits_cases (n : Nat) :
    (∃ d, shortDigits n = [d]) ∨ ∃ d e ds, shortDigits n = (d + 1) :: e :: ds := by
  match h : shortDigits n with
  | [] => exact absurd h (shortDigits_ne_nil n)
  | [d] => exact .inl ⟨d, rfl⟩
  | 0 :: e :: ds => exact absurd h shortDigits_ne_zero_cons
  | (d + 1) :: e :: ds => exact .inr ⟨d, e, ds, rfl⟩

end Text

namespace Numeral

/-- How an integer is spelled. -/
def ofInt (n : Int) : Numeral where
  negative := decide (n < 0)
  whole := shortDigits n.natAbs
  fraction := none
  exponent := none

theorem toList_toString (n : Int) : (toString n).toList =
    if n < 0 then '-' :: Nat.toDigits 10 n.natAbs else Nat.toDigits 10 n.natAbs := by
  cases n with
  | ofNat n => exact String.toList_ofList
  | negSucc n =>
    show ("-" ++ Nat.repr (n + 1)).toList = _
    rw [String.toList_append, if_pos (Int.negSucc_lt_zero n)]
    exact congrArg _ String.toList_ofList

theorem toDigits_ne_minus (n : Nat) (rest : List Char) : Nat.toDigits 10 n ≠ '-' :: rest := by
  intro h
  have hmem : '-' ∈ Nat.toDigits 10 n := h ▸ List.mem_cons_self
  exact absurd (Nat.isDigit_of_mem_toDigits (by decide) (by decide) hmem) (by decide)

/-- The text of an integer is read as its spelling. -/
theorem ofChars?_toString (n : Int) : ofChars? (toString n).toList = some (ofInt n) := by
  have hspan := spanAllDigits_toDigits n.natAbs
  rw [toList_toString, ofInt]
  by_cases hneg : n < 0
  · rw [if_pos hneg, decide_eq_true hneg, ofChars?.eq_1, hspan]
    rcases shortDigits_cases n.natAbs with ⟨_ | d, h⟩ | ⟨d, e, ds, h⟩ <;> rw [h] <;> rfl
  · rw [if_neg hneg, decide_eq_false hneg, ofChars?.eq_2 _ (toDigits_ne_minus _), hspan]
    rcases shortDigits_cases n.natAbs with ⟨_ | d, h⟩ | ⟨d, e, ds, h⟩ <;> rw [h] <;> rfl

/-- The value of the spelling is the integer. -/
theorem value?_ofInt {n : Int} (h : -9223372036854775808 ≤ n ∧ n < 18446744073709551616) :
    (ofInt n).value? = some (.int n) := by
  have hlimit : Nat.pow 2 63 = 9223372036854775808 := by decide
  have hsize : UInt64.size = 18446744073709551616 := by decide
  rw [value?, if_pos ⟨rfl, rfl⟩]
  simp only [ofInt, ofDigits_shortDigits, hlimit, hsize]
  by_cases hneg : n < 0
  · rw [decide_eq_true hneg, if_pos rfl, if_pos (by omega)]
    simp only [Option.some.injEq, Value.int.injEq]
    omega
  · rw [decide_eq_false hneg, if_neg (by decide), if_pos (by omega)]
    simp only [Option.some.injEq, Value.int.injEq]
    omega

end Numeral

end Sheltering
