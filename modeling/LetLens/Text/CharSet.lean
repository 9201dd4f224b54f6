/-! Sets of characters, given by ranges of code points. -/

namespace LetLens

/-- The code points from `first` to `last`, both included. -/
structure CharRange where
  first : Nat
  last : Nat

/-- Ranges in ascending order. -/
abbrev CharSet := List CharRange

/-- Looks no further than to the first range that starts behind `c`. -/
def CharSet.has : CharSet → Char → Bool
  | [], _ => false
  | r :: rs, c => r.first ≤ c.toNat && (c.toNat ≤ r.last || CharSet.has rs c)

end LetLens
