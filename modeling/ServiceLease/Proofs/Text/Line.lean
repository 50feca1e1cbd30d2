import ServiceLease.Text.Line

/-! Texts that unifying their ends of lines leaves alone. -/
namespace ServiceLease.Text

theorem unifyLineEnds_eq_self {s : List Char} (noReturn : '\r' ∉ s) : unifyLineEnds s = s := by
  induction s with
  | nil => rfl
  | cons c rest ih =>
    rw [List.mem_cons, not_or] at noReturn
    have other : c ≠ '\r' := Ne.symm noReturn.1
    rw [unifyLineEnds]
    · rw [ih noReturn.2]
      simp [other]
    · exact fun _ same => absurd same other

end ServiceLease.Text
