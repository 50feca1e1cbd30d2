import ServiceLease.Coercion
import ServiceLease.Json.Printer
import ServiceLease.Proofs.Number.Spelling

/-! The integers that values stand for, and what is reported of a value that stands for none. A
value that can be written stands for an integer that can be written. -/
namespace ServiceLease.Coercion

/-- The integers that values stand for. A float is read by its units, a text by its digits. -/
inductive StandsForIn (minusCounts : Bool) : Value → Int → Prop where
  | int (n : Int) : StandsForIn minusCounts (.int n) n
  | no : StandsForIn minusCounts (.bool false) 0
  | yes : StandsForIn minusCounts (.bool true) 1
  | float {negative m scale k} : Binary64.units m scale = k * Nat.pow 2 Binary64.unitScale → k < wholeLimit →
      StandsForIn minusCounts (.float (.finite negative m scale)) (Numeral.signed negative k)
  | text {s negative ds} : Numeral.Spells (Text.trim Text.isWhiteSpace s.toList) negative ds →
      Numeral.count minusCounts negative ds ≤ Decimal.digitLimit →
      StandsForIn minusCounts (.text s) (Numeral.signed negative (Decimal.valueOf ds))

/-- The complaints about values that stand for no integer. A text is too long by what it begins with, and unreadable
otherwise, also if it spells too many digits. -/
inductive RefusedIn (minusCounts : Bool) : Value → Complaint → Prop where
  | null : RefusedIn minusCounts .null .notInteger
  | list (items : List Value) : RefusedIn minusCounts (.list items) .notInteger
  | object (members : Members) : RefusedIn minusCounts (.object members) .notInteger
  | nan : RefusedIn minusCounts (.float .nan) .notFinite
  | infinity (negative : Bool) : RefusedIn minusCounts (.float (.infinity negative)) .notFinite
  | fraction {negative m scale} : (∀ k, Binary64.units m scale ≠ k * Nat.pow 2 Binary64.unitScale) →
      RefusedIn minusCounts (.float (.finite negative m scale)) .fractional
  | large {negative m scale k} : Binary64.units m scale = k * Nat.pow 2 Binary64.unitScale → wholeLimit ≤ k →
      RefusedIn minusCounts (.float (.finite negative m scale)) .oversizedInteger
  | broken (t : Text.Broken) : RefusedIn minusCounts (.broken t) .notUnicode
  | unreadable {s} : ¬ Numeral.BeginsLong minusCounts s.toList →
      (∀ negative ds, Numeral.Spells (Text.trim Text.isWhiteSpace s.toList) negative ds →
        Decimal.digitLimit < Numeral.count minusCounts negative ds) →
      RefusedIn minusCounts (.text s) .unreadableInteger
  | long {s} : Numeral.BeginsLong minusCounts s.toList → RefusedIn minusCounts (.text s) .oversizedInteger

abbrev StandsFor := StandsForIn false

abbrev Refused := RefusedIn false

/-- How many ones a finite float comes to decides what it stands for. -/
theorem integerOfFloat_ones (negative : Bool) {m scale k : Nat}
    (ones : Binary64.units m scale = k * Nat.pow 2 Binary64.unitScale) :
    integerOfFloat (.finite negative m scale) =
      if k < wholeLimit then .ok (Numeral.signed negative k) else .error .oversizedInteger := by
  have positive (n : Nat) : 0 < Nat.pow 2 n := Nat.two_pow_pos n
  have whole : Binary64.whole negative m scale = (Numeral.signed negative k, true) := by
    rw [Binary64.whole, ones]
    simp only [Nat.mul_div_cancel k (positive _), Nat.mul_mod_left, Numeral.signed, beq_self_eq_true]
  simp only [integerOfFloat, whole, Numeral.natAbs_signed, Bool.not_true, Bool.false_eq_true, if_false]

theorem integerOfFloat_fraction (negative : Bool) {m scale : Nat}
    (fraction : ∀ k, Binary64.units m scale ≠ k * Nat.pow 2 Binary64.unitScale) :
    integerOfFloat (.finite negative m scale) = .error .fractional := by
  have rest : Binary64.units m scale % Nat.pow 2 Binary64.unitScale ≠ 0 := by
    intro none
    exact fraction _ (Nat.div_mul_cancel (Nat.dvd_of_mod_eq_zero none)).symm
  simp only [integerOfFloat, Binary64.whole, beq_eq_false_iff_ne.2 rest, Bool.not_false, if_true]

section

variable {minusCounts : Bool} {v : Value} {n : Int} {complaint : Complaint}

theorem integer_of_standsFor (stands : StandsForIn minusCounts v n) : integerIn minusCounts v = .ok n := by
  cases stands with
  | int n => rfl
  | no => rfl
  | yes => rfl
  | float ones small => rw [integerIn, integerOfFloat_ones _ ones, if_pos small]
  | text spells short =>
    rw [integerIn, Numeral.ofField_eq_ok_iff.2 ⟨_, _, spells, short, rfl⟩]
    rfl

theorem integer_of_refused (refused : RefusedIn minusCounts v complaint) :
    integerIn minusCounts v = .error complaint := by
  cases refused with
  | null => rfl
  | list items => rfl
  | object members => rfl
  | nan => rfl
  | infinity negative => rfl
  | fraction none => exact integerOfFloat_fraction _ none
  | large ones big => rw [integerIn, integerOfFloat_ones _ ones, if_neg (Nat.not_lt.2 big)]
  | broken t => rfl
  | unreadable short none =>
    rw [integerIn, Numeral.ofField_eq_malformed_iff.2 ⟨short, none⟩]
    rfl
  | long begins =>
    rw [integerIn, Numeral.ofField_eq_tooLong_iff.2 begins]
    rfl

/-- Every value stands for an integer or is refused for a reason. -/
theorem standsFor_or_refused (minusCounts : Bool) (v : Value) :
    (∃ n, StandsForIn minusCounts v n) ∨ ∃ complaint, RefusedIn minusCounts v complaint := by
  cases v with
  | null => exact .inr ⟨_, .null⟩
  | bool b =>
    cases b with
    | false => exact .inl ⟨_, .no⟩
    | true => exact .inl ⟨_, .yes⟩
  | int n => exact .inl ⟨n, .int n⟩
  | float x =>
    cases x with
    | nan => exact .inr ⟨_, .nan⟩
    | infinity negative => exact .inr ⟨_, .infinity negative⟩
    | finite negative m scale =>
      by_cases whole : ∃ k, Binary64.units m scale = k * Nat.pow 2 Binary64.unitScale
      · obtain ⟨k, ones⟩ := whole
        rcases Nat.lt_or_ge k wholeLimit with small | big
        · exact .inl ⟨_, .float ones small⟩
        · exact .inr ⟨_, .large ones big⟩
      · exact .inr ⟨_, .fraction fun k ones => whole ⟨k, ones⟩⟩
  | text s =>
    cases read : Numeral.ofField minusCounts s with
    | ok n =>
      obtain ⟨negative, ds, spells, short, rfl⟩ := Numeral.ofField_eq_ok_iff.1 read
      exact .inl ⟨_, .text spells short⟩
    | error e =>
      cases e with
      | malformed =>
        obtain ⟨short, none⟩ := Numeral.ofField_eq_malformed_iff.1 read
        exact .inr ⟨_, .unreadable short none⟩
      | tooLong => exact .inr ⟨_, .long (Numeral.ofField_eq_tooLong_iff.1 read)⟩
  | broken t => exact .inr ⟨_, .broken t⟩
  | list items => exact .inr ⟨_, .list items⟩
  | object members => exact .inr ⟨_, .object members⟩

/-- A value is refused exactly if it stands for no integer. -/
theorem exists_refused_iff : (∃ complaint, RefusedIn minusCounts v complaint) ↔ ∀ n, ¬ StandsForIn minusCounts v n := by
  constructor
  · rintro ⟨complaint, refused⟩ n stands
    have whole := integer_of_standsFor stands
    rw [integer_of_refused refused] at whole
    cases whole
  · intro none
    rcases standsFor_or_refused minusCounts v with ⟨n, stands⟩ | refused
    · exact absurd stands (none n)
    · exact refused

theorem integerIn_eq_ok_iff : integerIn minusCounts v = .ok n ↔ StandsForIn minusCounts v n := by
  refine ⟨fun whole => ?_, integer_of_standsFor⟩
  rcases standsFor_or_refused minusCounts v with ⟨m, stands⟩ | ⟨complaint, refused⟩
  · rw [integer_of_standsFor stands] at whole
    cases whole
    exact stands
  · rw [integer_of_refused refused] at whole
    cases whole

theorem integerIn_eq_error_iff :
    integerIn minusCounts v = .error complaint ↔ RefusedIn minusCounts v complaint := by
  refine ⟨fun failed => ?_, integer_of_refused⟩
  rcases standsFor_or_refused minusCounts v with ⟨n, stands⟩ | ⟨other, refused⟩
  · rw [integer_of_standsFor stands] at failed
    cases failed
  · rw [integer_of_refused refused] at failed
    cases failed
    exact refused

theorem integer_eq_ok_iff : integer v = .ok n ↔ StandsFor v n := integerIn_eq_ok_iff

theorem integer_eq_error_iff : integer v = .error complaint ↔ Refused v complaint := integerIn_eq_error_iff

end

/-! Integers that can be written. -/

/-- Whole floats are far below the digit limit. -/
theorem fits_of_small {n : Int} (small : n.natAbs < wholeLimit) : Decimal.fits n = true := by
  have digits : wholeLimit ≤ Decimal.beyond 19 := by decide
  rw [Decimal.fits_iff]
  exact Nat.lt_of_lt_of_le small (Nat.le_trans digits (Decimal.beyond_le_beyond (by decide)))

theorem fits_of_integer {v : Value} {n : Int} (written : Json.writable v = true) (whole : integer v = .ok n) :
    Decimal.fits n = true := by
  cases integer_eq_ok_iff.1 whole with
  | int n => exact written
  | no => decide
  | yes => decide
  | float ones small =>
    apply fits_of_small
    rwa [Numeral.natAbs_signed]
  | text spells short => exact Numeral.fits_of_ofField (Numeral.ofField_eq_ok_iff.2 ⟨_, _, spells, short, rfl⟩)

end ServiceLease.Coercion
