import TagQuery.Text.Basic

/-!
# Ranges of code points

Properties of characters beyond ASCII are tables of code points, as Unicode 17.0 has them. A table
is a list of closed ranges in ascending order.
-/

namespace TagQuery

/-- A set of code points, as closed ranges in ascending order. -/
abbrev CodeRanges := List (Nat × Nat)

/-- Whether a character lies in one of the ranges. -/
def CodeRanges.covers (ranges : CodeRanges) (c : Char) : Bool :=
  ranges.any fun (low, high) => low ≤ c.toNat && c.toNat ≤ high

end TagQuery
