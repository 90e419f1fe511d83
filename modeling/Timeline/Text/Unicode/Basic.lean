/-!
# Code-point tables

A character property of the Unicode standard is stored as a list of closed
ranges of code points. `inRanges` is membership in such a list; the lemma
`inRanges_iff` states it as an existential over the ranges, which is the form
that proofs about a property use.
-/

namespace Timeline.Text.Unicode

/-- A code point belongs to a table when some range of the table holds it. -/
def inRanges (ranges : List (Nat × Nat)) (n : Nat) : Bool :=
  ranges.any fun r => r.1 ≤ n && n ≤ r.2

theorem inRanges_iff (ranges : List (Nat × Nat)) (n : Nat) :
    inRanges ranges n = true ↔ ∃ r ∈ ranges, r.1 ≤ n ∧ n ≤ r.2 := by
  simp [inRanges]

end Timeline.Text.Unicode
