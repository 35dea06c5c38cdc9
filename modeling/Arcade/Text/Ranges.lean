/-!
# Ranges of characters

A class of characters as a list of ranges of their numbers, both ends included.

* `CharRanges.contains` looks a character up;
* `CharRanges.separated` and `CharRanges.count` are for checks of a table: whether its ranges stand
  in order with gaps between them, and how many numbers they hold.
-/

namespace Arcade

/-- A class of characters. -/
abbrev CharRanges := List (Nat × Nat)

/-- Whether a character is in a class. -/
def CharRanges.contains (ranges : CharRanges) (c : Char) : Bool :=
  ranges.any fun range => range.1 ≤ c.toNat && c.toNat ≤ range.2

/-- Whether the ranges stand in order, with a gap between any two. -/
def CharRanges.separated : CharRanges → Bool
  | [] => true
  | [range] => range.1 ≤ range.2
  | range :: next :: rest =>
    range.1 ≤ range.2 && range.2 + 1 < next.1 && CharRanges.separated (next :: rest)

/-- How many numbers the ranges hold. -/
def CharRanges.count : CharRanges → Nat
  | [] => 0
  | range :: rest => range.2 + 1 - range.1 + CharRanges.count rest

end Arcade
