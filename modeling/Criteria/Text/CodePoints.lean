/-! # Sets of code points

Tables of characters are lists of closed ranges of code points.
-/

namespace Criteria.Text

/-- Whether one of the closed ranges `rs` holds the code point `n`. -/
def inRanges (rs : List (Nat × Nat)) (n : Nat) : Bool :=
  rs.any fun r => decide (r.1 ≤ n) && decide (n ≤ r.2)

/-- A code point is in a table when it lies between the ends of some range. -/
theorem inRanges_eq_true {rs : List (Nat × Nat)} {n : Nat} :
    inRanges rs n = true ↔ ∃ r ∈ rs, r.1 ≤ n ∧ n ≤ r.2 := by
  simp [inRanges]

end Criteria.Text
