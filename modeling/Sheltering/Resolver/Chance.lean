/-!
# Chance

A resolver asks its donors in an order left to chance.

* `Chance`: where choices come from.
* `Chance.pick?`: the place on which a choice falls.
-/

namespace Sheltering

/-- Where choices come from. -/
inductive Chance where
  /-- Every choice falls on the first. -/
  | first
  /-- Choices are made of random bits, those of each draw. -/
  | drawn (bits : Nat → Nat)

namespace Chance

/-- The place among `n` on which the draw `k` falls. Where there is nothing to choose from there is
no place for chance to fall on. -/
def pick? (c : Chance) (k n : Nat) : Option Nat :=
  match c with
  | first => some 0
  | drawn bits => if n = 0 then none else some (bits k % n)

end Chance

end Sheltering
