/-!
# The symbols of a byte sequence

`symbols` reads bytes as UTF-8 text. A byte that belongs to no character is a symbol of its own, so
the characters after it are still found.
-/

namespace Sheltering.Text

/-- The low bits of a byte that continues a character. -/
def continuation? (b : UInt8) : Option Nat :=
  if 0x80 ≤ b ∧ b < 0xC0 then some (b.toNat - 0x80) else none

/-- The number of bytes that follow the first byte of a character, and its bits. -/
def leading? (b : UInt8) : Option (Nat × Nat) :=
  if b < 0x80 then some (0, b.toNat)
  else if 0xC2 ≤ b ∧ b < 0xE0 then some (1, b.toNat - 0xC0)
  else if 0xE0 ≤ b ∧ b < 0xF0 then some (2, b.toNat - 0xE0)
  else if 0xF0 ≤ b ∧ b < 0xF5 then some (3, b.toNat - 0xF0)
  else none

/-- The smallest code that needs a number of bytes after the first. -/
def leastCode (following : Nat) : Nat :=
  match following with
  | 0 => 0
  | 1 => 0x80
  | 2 => 0x800
  | _ => 0x10000

/-- The character that some bytes begin with, and the number of its bytes after the first. -/
def leadingChar? (b : UInt8) (rest : List UInt8) : Option (Char × Nat) := do
  let (following, bits) ← leading? b
  let more ← (rest.take following).mapM continuation?
  let code := more.foldl (fun n d => 64 * n + d) bits
  if h : more.length = following ∧ leastCode following ≤ code ∧ Nat.isValidChar code then
    some (Char.ofNatAux code h.2.2, following)
  else none

/-- The characters of some bytes. A byte that is part of none is `none`. -/
def symbols : List UInt8 → List (Option Char)
  | [] => []
  | b :: rest =>
    match leadingChar? b rest with
    | some (c, following) => some c :: symbols (rest.drop following)
    | none => none :: symbols rest
termination_by bytes => bytes.length
decreasing_by all_goals simp only [List.length_cons, List.length_drop]; omega

end Sheltering.Text
