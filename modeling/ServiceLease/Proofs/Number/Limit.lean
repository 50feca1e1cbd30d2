import ServiceLease.Proofs.Number.Decimal

/-! What readers of numbers let through. However they count digits, no reader gives an
integer that has no text. -/
namespace ServiceLease

namespace Decimal

theorem beyond_le_beyond {few many : Nat} (fewer : few ≤ many) : beyond few ≤ beyond many :=
  Nat.pow_le_pow_right (by decide) fewer

/-- One more digit stays below one more power of ten. -/
theorem foldl_lt {ds : List Nat} (small : ∀ d ∈ ds, d < 10) (n : Nat) :
    ds.foldl (fun n d => 10 * n + d) n < (n + 1) * beyond ds.length := by
  induction ds generalizing n with
  | nil => exact Nat.lt_of_lt_of_eq (Nat.lt_succ_self n) (Nat.mul_one (n + 1)).symm
  | cons d ds ih =>
    have digit : d < 10 := small d (by simp)
    have step : 10 * n + d + 1 ≤ (n + 1) * 10 := by omega
    have power : (n + 1) * 10 * beyond ds.length = (n + 1) * beyond (d :: ds).length := by
      rw [Nat.mul_assoc]
      exact congrArg ((n + 1) * ·) Nat.pow_succ'.symm
    calc ds.foldl (fun n d => 10 * n + d) (10 * n + d)
      _ < (10 * n + d + 1) * beyond ds.length := ih (fun e member => small e (by simp [member])) _
      _ ≤ (n + 1) * 10 * beyond ds.length := Nat.mul_le_mul_right _ step
      _ = (n + 1) * beyond (d :: ds).length := power

theorem valueOf_lt {ds : List Nat} (small : ∀ d ∈ ds, d < 10) : valueOf ds < beyond ds.length := by
  have bound := foldl_lt small 0
  rwa [Nat.zero_add, Nat.one_mul] at bound

theorem valueOf_dropWhile (ds : List Nat) : valueOf (ds.dropWhile (· == 0)) = valueOf ds := by
  induction ds with
  | nil => rfl
  | cons d ds ih =>
    by_cases zero : d = 0
    · subst zero
      exact ih
    · rw [List.dropWhile_cons_of_neg (by simpa using zero)]

/-- Digits within the limit denote a number that has a text; leading zeros need not count. -/
theorem fits_valueOf {ds : List Nat} (small : ∀ d ∈ ds, d < 10)
    (short : (ds.dropWhile (· == 0)).length ≤ digitLimit) (negative : Bool) :
    fits (Numeral.signed negative (valueOf ds)) = true := by
  have fewer : ∀ d ∈ ds.dropWhile (· == 0), d < 10 := fun d member =>
    small d ((List.dropWhile_sublist _).subset member)
  have bound := Nat.lt_of_lt_of_le (valueOf_lt fewer) (beyond_le_beyond short)
  rw [valueOf_dropWhile] at bound
  rwa [fits_iff, Numeral.natAbs_signed]

end Decimal

namespace Text

theorem asciiDigit?_lt {c : Char} {d : Nat} (read : asciiDigit? c = some d) : d < 10 := by
  unfold asciiDigit? at read
  split at read
  · next digit =>
    have bounds := Char.isDigit_iff_toNat.1 digit
    simp at read bounds
    omega
  · cases read

theorem decimalDigit?_lt {c : Char} {d : Nat} (read : decimalDigit? c = some d) : d < 10 := by
  obtain ⟨z, found, rfl⟩ := Option.map_eq_some_iff.1 read
  have bounds := List.find?_some found
  simp at bounds
  omega

end Text

namespace Numeral

theorem grouped_lt {digit? : Char → Option Nat} (small : ∀ c d, digit? c = some d → d < 10) {s : List Char}
    {ds : List Nat} (read : grouped digit? s = some ds) : ∀ d ∈ ds, d < 10 := by
  fun_induction grouped digit? s generalizing ds with
  | case1 => cases read
  | case2 c =>
    obtain ⟨d, digit, rfl⟩ := Option.map_eq_some_iff.1 read
    simpa using small c d digit
  | case3 c rest ih =>
    obtain ⟨d, digit, others⟩ := Option.bind_eq_some_iff.1 read
    obtain ⟨es, tail, rfl⟩ := Option.map_eq_some_iff.1 others
    exact List.forall_mem_cons.2 ⟨small c d digit, ih tail⟩
  | case4 c rest _ _ ih =>
    obtain ⟨d, digit, others⟩ := Option.bind_eq_some_iff.1 read
    obtain ⟨es, tail, rfl⟩ := Option.map_eq_some_iff.1 others
    exact List.forall_mem_cons.2 ⟨small c d digit, ih tail⟩

/-- Leading zeros may be as many as they please, the number has a text all the same. -/
theorem fits_of_ofField {minusCounts : Bool} {s : String} {n : Int} (read : ofField minusCounts s = .ok n) :
    Decimal.fits n = true := by
  simp only [ofField] at read
  split at read
  · cases read
  · split at read
    · cases read
    · next ds digits =>
      split at read
      · next short =>
        simp only [Bool.and_eq_true, decide_eq_true_eq] at short
        cases read
        have fewer := Nat.le_trans (Nat.le_add_right _ _) short.2
        exact Decimal.fits_valueOf (grouped_lt (fun _ _ => Text.asciiDigit?_lt) digits) fewer _
      · cases read

theorem fits_of_ofElementText {s : List Char} {n : Int} (read : ofElementText s = some n) :
    Decimal.fits n = true := by
  simp only [ofElementText] at read
  split at read
  · cases read
  · next ds digits =>
    split at read
    · next short =>
      cases read
      have fewer := Nat.le_trans (List.dropWhile_sublist (· == 0) (l := ds)).length_le short
      exact Decimal.fits_valueOf (grouped_lt (fun _ _ => Text.decimalDigit?_lt) digits) fewer _
    · cases read

end Numeral

end ServiceLease
