/-! Sets of characters given as ranges of code points, the form in which the
Unicode and XML standards list their character properties. -/
namespace ServiceLease.Text

/-- Inclusive ranges of code points, in increasing order. -/
structure CharClass where
  ranges : List (Nat × Nat)

namespace CharClass

def contains (k : CharClass) (c : Char) : Bool :=
  k.ranges.any fun r => r.1 ≤ c.toNat && c.toNat ≤ r.2

theorem contains_iff (k : CharClass) (c : Char) :
    k.contains c = true ↔ ∃ r ∈ k.ranges, r.1 ≤ c.toNat ∧ c.toNat ≤ r.2 := by
  simp [contains]

end CharClass

end ServiceLease.Text
