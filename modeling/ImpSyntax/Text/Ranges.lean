/-!
# Sets of code points as tables of ranges

A character class taken from the Unicode database is written as a list of inclusive
ranges of code points, ascending and disjoint. Membership is a scan of the list; the
classes that matter most (ASCII letters, digits, blanks) are decided before the table is
consulted, by the modules that use it.
-/

namespace ImpSyntax.Text

/-- **Membership in a range table.** `n` lies in one of the inclusive ranges `rs`. -/
def inRanges (rs : List (Nat × Nat)) (n : Nat) : Bool :=
  rs.any fun r => r.1 ≤ n && n ≤ r.2

theorem inRanges_iff {rs : List (Nat × Nat)} {n : Nat} :
    inRanges rs n = true ↔ ∃ r ∈ rs, r.1 ≤ n ∧ n ≤ r.2 := by
  simp [inRanges]

theorem inRanges_nil (n : Nat) : inRanges [] n = false := rfl

end ImpSyntax.Text
