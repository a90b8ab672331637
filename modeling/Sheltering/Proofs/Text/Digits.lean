import Sheltering.Text.Digits

/-!
# Numbers of a fixed width

* `padded_lt`, `padded_append_lt`: numbers padded to one width stand in their order.
* `cons_lt_padded`: a sign in front stands before all of them.
* `toNat_lt_of_mem_padded`: they hold ASCII characters only.
* `spanDigits_padded`: a padded number is read digit by digit, and nothing after it is.
* `ofDigits_digitsOf`: its digits make the number again.
-/

namespace Sheltering.Text

/-! ## Order -/

theorem append_lt_append {s t x y : List Char} (hl : s.length = t.length) (h : s < t) :
    s ++ x < t ++ y := by
  induction s generalizing t with
  | nil =>
    cases t with
    | nil => exact absurd h (List.lt_irrefl _)
    | cons => cases hl
  | cons c s ih =>
    cases t with
    | nil => cases hl
    | cons d t =>
      rw [List.cons_append, List.cons_append, List.cons_lt_cons_iff]
      rcases List.cons_lt_cons_iff.mp h with hcd | ⟨rfl, hst⟩
      · exact .inl hcd
      · exact .inr ⟨rfl, ih (by simpa using hl) hst⟩

/-- The last digit of a padded number stands after the padded number of the others. -/
theorem padded_succ {w : Nat} (hw : 0 < w) (n : Nat) :
    padded (w + 1) n = padded w (n / 10) ++ [(n % 10).digitChar] := by
  rcases Nat.lt_or_ge n 10 with hn | hn
  · rw [Nat.div_eq_of_lt hn, Nat.mod_eq_of_lt hn, padded, padded, Nat.toDigits_of_lt_base hn,
      Nat.toDigits_zero]
    obtain ⟨w, rfl⟩ := Nat.exists_eq_add_of_lt hw
    simp [List.replicate_succ']
  · rw [padded, padded, Nat.toDigits_of_base_le (by decide) hn]
    simp

theorem digitChar_lt {a b : Nat} (h : a < b) (hb : b < 10) : a.digitChar < b.digitChar := by
  have : ∀ b, b < 10 → ∀ a, a < b → a.digitChar < b.digitChar := by decide
  exact this b hb a h

theorem length_padded {w n : Nat} (hw : 0 < w) (hn : n < Nat.pow 10 w) :
    (padded w n).length = w := by
  have := (Nat.length_toDigits_le_iff (n := n) (by decide : 1 < 10) hw).mpr hn
  simp only [padded, List.length_append, List.length_replicate]
  omega

theorem padded_lt {w m n : Nat} (hw : 0 < w) (h : m < n) (hn : n < Nat.pow 10 w) :
    padded w m < padded w n := by
  induction w generalizing m n with
  | zero => exact absurd hw (Nat.lt_irrefl 0)
  | succ w ih =>
    rcases Nat.eq_zero_or_pos w with rfl | hw
    · have hn : n < 10 := hn
      simpa [padded, Nat.toDigits_of_lt_base hn, Nat.toDigits_of_lt_base (Nat.lt_trans h hn),
        List.cons_lt_cons_iff] using digitChar_lt h hn
    · have hn' : n / 10 < Nat.pow 10 w := Nat.div_lt_of_lt_mul (by rwa [Nat.mul_comm])
      rw [padded_succ hw, padded_succ hw]
      rcases Nat.lt_or_eq_of_le (Nat.div_le_div_right (c := 10) (Nat.le_of_lt h)) with hd | hd
      · refine append_lt_append ?_ (ih hw hd hn')
        rw [length_padded hw hn', length_padded hw (Nat.lt_trans hd hn')]
      · rw [hd]
        refine List.append_left_lt (List.cons_lt_cons_iff.mpr (.inl (digitChar_lt ?_ ?_))) <;> omega

/-- Padded numbers with more after them stand in the order of the numbers, then of what follows. -/
theorem padded_append_lt {w m n : Nat} {x y : List Char} (hw : 0 < w) (hn : n < Nat.pow 10 w)
    (h : m < n ∨ (m = n ∧ x < y)) : padded w m ++ x < padded w n ++ y := by
  rcases h with h | ⟨rfl, h⟩
  · refine append_lt_append ?_ (padded_lt hw h hn)
    rw [length_padded hw hn, length_padded hw (Nat.lt_trans h hn)]
  · exact List.append_left_lt h

theorem padded_cons_lt {w m n : Nat} {c : Char} {x y : List Char} (hw : 0 < w)
    (hn : n < Nat.pow 10 w) (h : m < n ∨ (m = n ∧ x < y)) :
    padded w m ++ c :: x < padded w n ++ c :: y :=
  padded_append_lt hw hn (h.imp_right fun ⟨e, h⟩ => ⟨e, List.cons_lt_cons_iff.mpr (.inr ⟨rfl, h⟩)⟩)

/-- A character before the digits stands before every padded number. -/
theorem cons_lt_padded {w n : Nat} {c : Char} (hw : 0 < w) (hn : n < Nat.pow 10 w) (hc : c < '0')
    (x y : List Char) : c :: x < padded w n ++ y := by
  induction w generalizing n y with
  | zero => exact absurd hw (Nat.lt_irrefl 0)
  | succ w ih =>
    rcases Nat.eq_zero_or_pos w with rfl | hw
    · have hn : n < 10 := hn
      have hdigit : ∀ d, d < 10 → '0' ≤ d.digitChar := by decide
      have hp : padded 1 n = [n.digitChar] := by simp [padded, Nat.toDigits_of_lt_base hn]
      rw [hp, List.singleton_append, List.cons_lt_cons_iff]
      exact .inl (Nat.lt_of_lt_of_le hc (hdigit n hn))
    · rw [padded_succ hw, List.append_assoc]
      exact ih hw (Nat.div_lt_of_lt_mul (by rwa [Nat.mul_comm])) _

theorem toNat_lt_of_mem_padded {w n : Nat} {c : Char} (h : c ∈ padded w n) : c.toNat < 128 := by
  rcases List.mem_append.mp h with h | h
  · rw [List.eq_of_mem_replicate h]
    decide
  · have hdigit := Nat.isDigit_of_mem_toDigits (by decide) (by decide) h
    exact Nat.lt_of_le_of_lt (Char.isDigit_iff_toNat.mp hdigit).2 (by decide)

/-! ## Reading -/

/-- The values of the last `w` decimal digits of a number. -/
def digitsOf : (w n : Nat) → List Nat
  | 0, _ => []
  | w + 1, n => digitsOf w (n / 10) ++ [n % 10]

theorem length_digitsOf (w n : Nat) : (digitsOf w n).length = w := by
  induction w generalizing n with
  | zero => rfl
  | succ w ih => rw [digitsOf, List.length_append, ih, List.length_singleton]

theorem digit?_digitChar {d : Nat} (h : d < 10) : digit? d.digitChar = some d := by
  have : ∀ d, d < 10 → digit? d.digitChar = some d := by decide
  exact this d h

theorem hexDigit?_digitChar {d : Nat} (h : d < 16) : hexDigit? d.digitChar = some d := by
  have : ∀ d, d < 16 → hexDigit? d.digitChar = some d := by decide
  exact this d h

/-- A digit in front is read first. -/
theorem spanDigits_digitChar {d : Nat} (h : d < 10) (m : Nat) (text : List Char) :
    spanDigits (m + 1) (d.digitChar :: text) =
      (d :: (spanDigits m text).1, (spanDigits m text).2) := by
  simp only [spanDigits, digit?_digitChar h]

/-- A padded number in front is read first, digit by digit. -/
theorem spanDigits_padded {w n : Nat} (hw : 0 < w) (hn : n < Nat.pow 10 w) (m : Nat)
    (text : List Char) : spanDigits (w + m) (padded w n ++ text) =
      (digitsOf w n ++ (spanDigits m text).1, (spanDigits m text).2) := by
  induction w generalizing n m text with
  | zero => exact absurd hw (Nat.lt_irrefl 0)
  | succ w ih =>
    rcases Nat.eq_zero_or_pos w with rfl | hw
    · have hn : n < 10 := hn
      have hp : padded 1 n = [n.digitChar] := by simp [padded, Nat.toDigits_of_lt_base hn]
      rw [hp, Nat.add_comm, List.singleton_append, spanDigits_digitChar hn, digitsOf, digitsOf,
        Nat.mod_eq_of_lt hn]
      rfl
    · have hn' : n / 10 < Nat.pow 10 w := Nat.div_lt_of_lt_mul (by rwa [Nat.mul_comm])
      rw [padded_succ hw, List.append_assoc, List.singleton_append, Nat.add_right_comm,
        Nat.add_assoc, ih hw hn', spanDigits_digitChar (Nat.mod_lt n (by decide)), digitsOf,
        List.append_assoc]
      rfl

theorem ofDigits_append (ds : List Nat) (d : Nat) :
    ofDigits (ds ++ [d]) = 10 * ofDigits ds + d := by
  rw [ofDigits, List.foldl_append]
  rfl

/-- The digits of a number make the number again. -/
theorem ofDigits_digitsOf {w n : Nat} (hn : n < Nat.pow 10 w) : ofDigits (digitsOf w n) = n := by
  induction w generalizing n with
  | zero =>
    have hn : n < 1 := hn
    rw [Nat.lt_one_iff.mp hn]
    rfl
  | succ w ih =>
    have hn' : n / 10 < Nat.pow 10 w := Nat.div_lt_of_lt_mul (by rwa [Nat.mul_comm])
    rw [digitsOf, ofDigits_append, ih hn', Nat.div_add_mod]

end Sheltering.Text
