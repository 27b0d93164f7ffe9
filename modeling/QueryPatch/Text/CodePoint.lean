import QueryPatch.Text.Basic

/-! # Classes of code points

A class is given by its bounds, in ascending order: the first code point in it, the first one no
longer in it, and so on by turns.
-/
set_option autoImplicit false

namespace QueryPatch.Text

/-- A code point is in the class iff an odd number of bounds lie at or below it. -/
def within : List Nat → Char → Bool
  | low :: high :: rest, c =>
    if c.toNat < low then false else if c.toNat < high then true else within rest c
  | [low], c => low ≤ c.toNat
  | [], _ => false

end QueryPatch.Text
