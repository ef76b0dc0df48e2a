/-!
# Ranges of Code Points

Classes of characters that no rule describes are given by tables. A table lists
ranges of code points in ascending order, each with its first and its last one.

## Main definitions

* `Text.inRanges`: Whether a code point lies in one of the ranges.
-/

namespace Turnstile

namespace Text

/-- Whether a code point lies in one of the ranges, ends included. -/
def inRanges (ranges : List (Nat × Nat)) (n : Nat) : Bool :=
  ranges.any fun (first, last) => first ≤ n && n ≤ last

end Text

end Turnstile
