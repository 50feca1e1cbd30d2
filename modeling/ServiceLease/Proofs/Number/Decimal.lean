import ServiceLease.Number.Numeral

/-! Decimal text and its readers. The digits of an integer within the limit are read
back as that integer by every reader that counts digits. -/
namespace ServiceLease

namespace Decimal

theorem fits_iff_length (n : Int) : fits n = true ↔ (Nat.toDigits 10 n.natAbs).length ≤ digitLimit := by
  rw [fits, decide_eq_true_eq, digitCount]

/-- The least number of more than `limit` digits. -/
def beyond (limit : Nat) : Nat := Nat.pow 10 limit

theorem beyond_add (few more : Nat) : beyond (few + more) = beyond few * beyond more := Nat.pow_add 10 few more

theorem ten_le_beyond {limit : Nat} (some? : limit ≠ 0) : 10 ≤ beyond limit := Nat.le_self_pow some? 10

theorem length_toDigits_le_iff {n limit : Nat} (some? : limit ≠ 0) :
    (Nat.toDigits 10 n).length ≤ limit ↔ n < beyond limit :=
  Nat.length_toDigits_le_iff (by decide) (Nat.pos_of_ne_zero some?)

theorem fits_iff (n : Int) : fits n = true ↔ n.natAbs < beyond digitLimit :=
  (fits_iff_length n).trans (length_toDigits_le_iff (by decide))

theorem not_fits_beyond : ¬ fits (beyond digitLimit) = true := by
  rw [fits_iff, Int.natAbs_natCast]
  exact Nat.lt_irrefl (beyond digitLimit)

theorem isDigit_of_mem {c : Char} {n : Nat} (member : c ∈ Nat.toDigits 10 n) : c.isDigit = true :=
  Nat.isDigit_of_mem_toDigits (by decide) (by decide) member

/-- Only zero has a leading zero. -/
theorem head_toDigits {n : Nat} (positive : 0 < n) : (Nat.toDigits 10 n).head? ≠ some '0' := by
  induction n using Nat.strongRecOn with
  | ind n ih =>
    rw [Nat.toDigits_eq_if (by decide)]
    split
    next small => simp; omega
    next large =>
      have tail := ih (n / 10) (by omega) (by omega)
      rw [List.head?_append]
      cases h : (Nat.toDigits 10 (n / 10)).head? with
      | none => exact absurd (List.head?_eq_none_iff.1 h) Nat.toDigits_ne_nil
      | some c => simpa [h] using tail

theorem digits_ne_nil (n : Int) : digits n ≠ [] := by
  cases n <;> simp [digits]

/-- An integer is written in ASCII digits and a hyphen. -/
theorem mem_digits {c : Char} {n : Int} (member : c ∈ digits n) : c = '-' ∨ c.isDigit = true := by
  cases n with
  | ofNat n => exact .inr (isDigit_of_mem member)
  | negSucc n =>
    rcases List.mem_cons.1 member with same | tail
    · exact .inl same
    · exact .inr (isDigit_of_mem tail)

theorem valueOf_map (s : List Char) :
    valueOf (s.map fun c => c.toNat - 0x30) = Nat.ofDigitChars 10 s 0 := by
  simp [valueOf, Nat.ofDigitChars, List.foldl_map]

theorem valueOf_toDigits (n : Nat) :
    valueOf ((Nat.toDigits 10 n).map fun c => c.toNat - 0x30) = n := by
  rw [valueOf_map, Nat.ofDigitChars_ten_toDigits]

end Decimal

namespace Text

theorem not_isBlank_of_isDigit {c : Char} (digit : c.isDigit = true) : isBlank c = false := by
  have bounds := Char.isDigit_iff_toNat.1 digit
  simp [isBlank, isWhiteSpace, whiteSpace, CharClass.contains] at bounds ⊢
  omega

theorem decimalDigit?_of_isDigit {c : Char} (digit : c.isDigit = true) :
    decimalDigit? c = some (c.toNat - 0x30) := by
  have bounds := Char.isDigit_iff_toNat.1 digit
  have found : digitZeros.find? (fun z => z ≤ c.toNat && c.toNat < z + 10) = some 0x30 := by
    rw [digitZeros, List.find?_cons_of_pos]
    simp at bounds ⊢; omega
  rw [decimalDigit?, found]; rfl

/-- Decimal text has nothing around it that trimming would take away. -/
theorem trim_digits (n : Int) : trim isBlank (Decimal.digits n) = Decimal.digits n := by
  have solid : ∀ c ∈ Decimal.digits n, isBlank c = false := by
    intro c member
    rcases Decimal.mem_digits member with rfl | digit
    · decide
    · exact not_isBlank_of_isDigit digit
  refine trim_eq_self ?_ ?_
  · exact fun c first => solid c (List.mem_of_head? first)
  · exact fun c last => solid c (List.mem_of_getLast? last)

end Text

namespace Numeral

theorem ne_underscore_of_isDigit {c : Char} (digit : c.isDigit = true) : c ≠ '_' := by
  rintro rfl; revert digit; decide

/-- Digits without underscores are their own groups. -/
theorem grouped_digits {digit? : Char → Option Nat} {value : Char → Nat} {s : List Char} (some? : s ≠ [])
    (known : ∀ c ∈ s, digit? c = some (value c) ∧ c ≠ '_') : grouped digit? s = some (s.map value) := by
  induction s with
  | nil => exact absurd rfl some?
  | cons c s ih =>
    have here := (known c (by simp)).1
    cases s with
    | nil => simp [grouped, here]
    | cons d rest =>
      have other : d ≠ '_' := (known d (by simp)).2
      have tail := ih (by simp) fun e member => known e (by simp_all)
      rw [grouped]
      · simp [here, tail]
      · simp
      · simp [other]

theorem grouped_toDigits (n : Nat) :
    grouped Text.decimalDigit? (Nat.toDigits 10 n) = some ((Nat.toDigits 10 n).map fun c => c.toNat - 0x30) :=
  grouped_digits Nat.toDigits_ne_nil fun _ member =>
    ⟨Text.decimalDigit?_of_isDigit (Decimal.isDigit_of_mem member),
      ne_underscore_of_isDigit (Decimal.isDigit_of_mem member)⟩

theorem sign_digits (n : Int) :
    sign (Decimal.digits n) = (decide (n < 0), Nat.toDigits 10 n.natAbs) := by
  cases n with
  | ofNat n =>
    have known : ∀ c ∈ Nat.toDigits 10 n, c.isDigit = true := fun _ => Decimal.isDigit_of_mem
    simp only [Decimal.digits, Int.ofNat_eq_natCast, Int.natAbs_natCast]
    cases h : Nat.toDigits 10 n with
    | nil => exact absurd h Nat.toDigits_ne_nil
    | cons c rest =>
      have first := known c (by simp [h])
      rw [sign]
      · simp
      · rintro _ ⟨⟩; revert first; decide
      · rintro _ ⟨⟩; revert first; decide
  | negSucc n => simp [Decimal.digits, sign]

theorem signed_natAbs (n : Int) : signed (decide (n < 0)) n.natAbs = n := by
  simp only [signed, decide_eq_true_eq]; split <;> omega

/-- No two integers have the same digits. -/
theorem digits_injective {m n : Int} (same : Decimal.digits m = Decimal.digits n) : m = n := by
  have parts := congrArg sign same
  rw [sign_digits, sign_digits, Prod.mk.injEq] at parts
  obtain ⟨side, digits⟩ := parts
  have size : m.natAbs = n.natAbs := by rw [← Decimal.valueOf_toDigits m.natAbs, digits, Decimal.valueOf_toDigits]
  rw [← signed_natAbs m, side, size, signed_natAbs]

theorem natAbs_signed (negative : Bool) (n : Nat) : (signed negative n).natAbs = n := by
  cases negative <;> simp [signed]

/-- The text of an integer within the limit is read back from an element. -/
theorem ofElementText_digits {n : Int} (fits : Decimal.fits n = true) :
    ofElementText (Decimal.digits n) = some n := by
  have short := (Decimal.fits_iff_length n).1 fits
  simp [ofElementText, sign_digits, grouped_toDigits, short, Decimal.valueOf_toDigits, signed_natAbs]

end Numeral

end ServiceLease
