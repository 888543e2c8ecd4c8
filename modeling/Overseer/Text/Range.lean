/-!
# Ranges of characters

A property of characters is given by the inclusive ranges of code points that have it. The tables
of ranges follow version 17 of the Unicode character database.
-/
namespace Overseer

/-- Inclusive ranges of code points, ascending. -/
abbrev CharRanges := List (Nat × Nat)

/-- Whether the character lies in one of the ranges. -/
def CharRanges.contain (ranges : CharRanges) (char : Char) : Bool :=
  ranges.any fun (first, last) => first ≤ char.toNat && char.toNat ≤ last

end Overseer
