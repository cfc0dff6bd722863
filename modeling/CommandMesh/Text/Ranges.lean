/-!
# `CommandMesh.Text.Ranges`: sets of code points as sorted ranges

A property of characters is a list of inclusive ranges in ascending order. `covers` decides
membership and stops at the first range that starts beyond the character.

The order is not part of the type: the tables are constants and nothing adds to them. What
`Proofs.Text.NormalForm` shows of all characters is checked on the points of the tables alone, since
a character outside of them has none of the properties.
-/

set_option autoImplicit false

namespace CommandMesh.Text

/-- Whether one of the ranges holds `n`. The ranges are in ascending order, so the first one that
starts beyond `n` ends the search. -/
def covers : List (Nat × Nat) → Nat → Bool
  | [], _ => false
  | (lo, hi) :: rest, n => if n < lo then false else n ≤ hi || covers rest n

end CommandMesh.Text
