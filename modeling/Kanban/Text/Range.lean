/-!
# Ranges of code points

A class of characters is given by a list of closed ranges of code points; a character
is in the class when one of the ranges holds its code point.
-/

namespace Kanban.Text

/-- A closed range of code points. -/
abbrev Range := Nat × Nat

/-- One of the ranges holds the code point `n`. -/
def inRanges (ranges : List Range) (n : Nat) : Bool :=
  ranges.any fun r => r.1 ≤ n && n ≤ r.2

theorem inRanges_eq_true_iff {ranges : List Range} {n : Nat} :
  inRanges ranges n = true ↔ ∃ r ∈ ranges, r.1 ≤ n ∧ n ≤ r.2
  := by
  simp [inRanges]

end Kanban.Text
