/-!
# Sets of characters as ranges of code points

A set of characters is a list of closed ranges of code points, ascending and apart.

## Main definitions

* `Ranges.start?`: the first code point of the range that holds a character
* `Ranges.contains`: membership
* `Ranges.wellFormed`: every range is non-empty and ends before the next one starts
-/

namespace FrameChunks.Text

/-- Closed ranges of code points. -/
abbrev Ranges := List (Nat × Nat)

namespace Ranges

/-- The first code point of the range that holds `c`. -/
def start? (ranges : Ranges) (c : Char) : Option Nat :=
  (List.find? (fun r : Nat × Nat => r.1 ≤ c.toNat && c.toNat ≤ r.2) ranges).map Prod.fst

/-- Whether a range holds `c`. -/
def contains (ranges : Ranges) (c : Char) : Bool := (ranges.start? c).isSome

/-- The number of code points in the ranges. -/
def count (ranges : Ranges) : Nat := ranges.foldr (fun r n => r.2 + 1 - r.1 + n) 0

/-- Every range is non-empty and ends before the next one starts. -/
def wellFormed : Ranges → Bool
  | [] => true
  | [r] => r.1 ≤ r.2
  | r :: s :: rest => r.1 ≤ r.2 && r.2 < s.1 && wellFormed (s :: rest)

theorem contains_iff (ranges : Ranges) (c : Char) :
    ranges.contains c = true ↔ ∃ r ∈ ranges, r.1 ≤ c.toNat ∧ c.toNat ≤ r.2 := by
  simp [contains, start?]

end Ranges

end FrameChunks.Text
