/-!
# Punycode

A text is written in letters, digits and hyphens only. First come the ASCII characters as they are,
then, after a hyphen, the others in ascending order: how far each is from the one before, counted in
characters and places, as a number of variable length to the base 36.

* `punycode`: a text as it is written.
* `unpunycode?`: the text that is written.
-/

namespace Sheltering.Text.Punycode

/-- A digit to the base 36. -/
def digit (d : Nat) : Char := if d < 26 then Char.ofNat (97 + d) else Char.ofNat (22 + d)

/-- From this value on the digit at place `k` is not the last one. -/
def threshold (k bias : Nat) : Nat := max 1 (min 26 (k - bias))

theorem threshold_pos (k bias : Nat) : 0 < threshold k bias := by
  unfold threshold
  omega

/-- The digits of a number from place `k` on. -/
def digits (bias k n : Nat) : List Char :=
  let t := threshold k bias
  if n < t then [digit n]
  else digit (t + (n - t) % (36 - t)) :: digits bias (k + 36) ((n - t) / (36 - t))
termination_by n
decreasing_by
  have := threshold_pos k bias
  have := Nat.div_le_self (n - threshold k bias) (36 - threshold k bias)
  omega

/-- Divides a number by 35 until it is at most 455, and counts 36 for each time. -/
def shrink (n k : Nat) : Nat × Nat :=
  if 455 < n then shrink (n / 35) (k + 36) else (n, k)
termination_by n
decreasing_by omega

/-- The bias after a number: the larger the number, the longer the next one is expected to be. -/
def adapt (n count : Nat) (first : Bool) : Nat :=
  let scaled := if first then n / 700 else n / 2
  let (rest, k) := shrink (scaled + scaled / count) 0
  k + 36 * rest / (rest + 38)

/-- A text that is being written. -/
structure Progress where
  /-- How far the next character is from the last one. -/
  delta : Nat := 0
  bias : Nat := 72
  /-- The characters written so far. -/
  count : Nat
  /-- No character but the ASCII ones is written. -/
  first : Bool := true
  written : List Char

/-- Passes a character of the text while all characters of code `code` are written. -/
def pass (code : Nat) (p : Progress) (c : Char) : Progress :=
  if c.toNat < code then { p with delta := p.delta + 1 }
  else if c.toNat = code then
    { delta := 0, bias := adapt p.delta (p.count + 1) p.first, count := p.count + 1, first := false
      written := p.written ++ digits p.bias 36 p.delta }
  else p

/-- Writes the characters of a text that have the given codes, in ascending order. `low` is the code
that follows the last one written. -/
def insert (text : List Char) (low : Nat) : List Nat → Progress → Progress
  | [], p => p
  | code :: rest, p =>
    let p := { p with delta := p.delta + (code - low) * (p.count + 1) }
    let p := text.foldl (pass code) p
    insert text (code + 1) rest { p with delta := p.delta + 1 }

/-- A text in letters, digits and hyphens. -/
def punycode (text : List Char) : List Char :=
  let plain := text.filter (·.toNat < 128)
  let codes := ((text.map Char.toNat).filter (128 ≤ ·)).eraseDups.mergeSort
  let start := if plain.isEmpty then [] else plain ++ ['-']
  (insert text 128 codes { count := plain.length, written := start }).written

/-! ## Reading -/

/-- The value of a digit to the base 36. -/
def digitValue? (c : Char) : Option Nat :=
  if 'a' ≤ c ∧ c ≤ 'z' then some (c.toNat - 97)
  else if '0' ≤ c ∧ c ≤ '9' then some (c.toNat - 22)
  else none

/-- All numbers are below this one. -/
def bound : Nat := UInt32.size

/-- Adds the number at the start of some digits, from place `k` on, to `sum`. The digit at place `k`
counts `weight`. The result says what follows the number. -/
def number? (bias : Nat) : (k weight sum : Nat) → List Char → Option (Nat × List Char)
  | _, _, _, [] => none
  | k, weight, sum, c :: rest =>
    match digitValue? c with
    | none => none
    | some d =>
      let t := threshold k bias
      if bound ≤ sum + d * weight then none
      else if d < t then some (sum + d * weight, rest)
      else if bound ≤ weight * (36 - t) then none
      else number? bias (k + 36) (weight * (36 - t)) (sum + d * weight) rest

/-- A number has a digit. -/
theorem length_lt_of_number? {bias k weight sum n : Nat} {digits rest : List Char}
    (h : number? bias k weight sum digits = some (n, rest)) : rest.length < digits.length := by
  induction digits generalizing k weight sum with
  | nil => simp [number?] at h
  | cons c tail ih =>
    unfold number? at h
    split at h
    · simp at h
    · simp only [] at h
      split at h
      · simp at h
      · split at h
        · simp only [Option.some.injEq, Prod.mk.injEq] at h
          simp [h.2]
        · split at h
          · simp at h
          · have := ih h
            simp only [List.length_cons]
            omega

/-- Puts the characters that some digits tell into a text. `code` is that of the last one, and at
`place` the next one would stand if it were the same. -/
def insertAll? (code place bias : Nat) (text digits : List Char) : Option (List Char) :=
  if digits.isEmpty then some text
  else
    match _ : number? bias 36 1 place digits with
    | none => none
    | some (sum, rest) =>
      let count := text.length + 1
      let next := code + sum / count
      if next.isValidChar then
        insertAll? next (sum % count + 1) (adapt (sum - place) count (place == 0))
          (text.insertIdx (sum % count) (Char.ofNat next)) rest
      else none
termination_by digits.length
decreasing_by exact length_lt_of_number? ‹_›

/-- The text that is written in some letters, digits and hyphens. -/
def unpunycode? (written : List Char) : Option (List Char) :=
  let digits := (written.reverse.takeWhile (· ≠ '-')).reverse
  let plain := written.take (written.length - digits.length - 1)
  if digits.length < written.length ∧ plain.isEmpty then none
  else insertAll? 128 0 72 plain digits

end Sheltering.Text.Punycode
