import ServiceLease.Proofs.Lease.BuilderWrites

/-! Runs in which a builder is given nothing but numbers. Two kinds of numbers are too much for it: an
integer that has to be replaced and is too long to be reported, which the setter refuses, and a
positive or undefined float that is no integer, which the build refuses. -/
namespace ServiceLease.Builder

open Coercion (StandsFor Refused)

/-- The numbers for a field: an integer, and for a setting also null, a flag or a float. -/
inductive Numeric (f : Field) : Value → Prop where
  | int (n : Int) : Numeric f (.int n)
  | null : f.standard?.isSome → Numeric f .null
  | bool (b : Bool) : f.standard?.isSome → Numeric f (.bool b)
  | float (x : Binary64) : f.standard?.isSome → Numeric f (.float x)

/-- A number is refused only for its length. -/
theorem refuses_iff_of_numeric {f : Field} {v : Value} {e : Failure} (numeric : Numeric f v) :
    Refuses f v e ↔ e = .integerUnwritable ∧ f.standard?.isSome ∧
      ∃ n, v = .int n ∧ n ≤ 0 ∧ Decimal.digitLimit < Decimal.digitCount n := by
  constructor
  · intro refuses
    cases refuses with
    | long setting small long => exact ⟨rfl, setting, _, rfl, small, long⟩
    | _ => cases numeric
  · rintro ⟨rfl, setting, n, rfl, small, long⟩
    exact .long setting small long

/-- What is stored for a number stands for an integer, unless it is a float. -/
theorem standsFor_or_float {f : Field} {v w : Value} (numeric : Numeric f v) (accepts : Accepts f v w) :
    (∃ n, StandsFor w n) ∨ f.standard?.isSome ∧ ∃ x, w = .float x := by
  cases accepts with
  | timestamp known =>
    have timestamp : ¬ f.standard?.isSome := by simp [known]
    cases numeric with
    | int n => exact .inl ⟨n, .int n⟩
    | null setting => exact absurd setting timestamp
    | bool b setting => exact absurd setting timestamp
    | float x setting => exact absurd setting timestamp
  | usable setting usable =>
    cases usable with
    | yes => exact .inl ⟨1, .yes⟩
    | @int n positive => exact .inl ⟨n, .int n⟩
    | _ => exact .inr ⟨setting, _, rfl⟩
  | replaced known unusable short => exact .inl ⟨_, .int _⟩

theorem mem_values {f : Field} {v : Value} {calls : List Call} : v ∈ values f calls ↔ Call.set f v ∈ calls := by
  rw [values, List.mem_filterMap]
  constructor
  · rintro ⟨c, member, gives⟩
    cases c with
    | set g u =>
      obtain ⟨rfl, same⟩ := Option.ite_none_right_eq_some.1 gives
      cases same
      exact member
    | build => cases gives
  · intro member
    exact ⟨_, member, if_pos rfl⟩

theorem holds_numeric {f : Field} {first : Int} {vs : List Value} {v : Value} (numeric : ∀ u ∈ vs, Numeric f u)
    (holds : Holds f first vs v) : (∃ n, StandsFor v n) ∨ f.standard?.isSome ∧ ∃ x, v = .float x := by
  cases holds with
  | first none => exact .inl ⟨first, .int first⟩
  | last accepts none => exact standsFor_or_float (numeric _ (by simp)) accepts

/-- Of numbers, a setter refuses those integers that have to be replaced and have more digits than
can be reported. The build fails exactly if the last value that counts for a setting is a float that
stands for no integer. -/
theorem number_refused_iff (calls : List Call) (numeric : ∀ f v, Call.set f v ∈ calls → Numeric f v) :
    (∀ f v, Call.set f v ∈ calls → ∀ b e, (set f v b).result = .error e ↔
      e = .integerUnwritable ∧ f.standard?.isSome ∧
        ∃ n, v = .int n ∧ n ≤ 0 ∧ Decimal.digitLimit < Decimal.digitCount n) ∧
    ((∃ e, outcome calls fresh = .error e) ↔
      ∃ f x, f.standard?.isSome ∧ Holds f f.initial (values f calls) (.float x) ∧
        ∃ complaint, Refused (.float x) complaint) := by
  constructor
  · intro f v member b e
    rw [set_eq_error_iff, refuses_iff_of_numeric (numeric f v member)]
  · rw [fresh_eq, outcome_error_iff]
    simp only [Lease.initial, Fields.get_ofFn]
    constructor
    · rintro ⟨f, v, holds, bad⟩
      have given : ∀ u ∈ values f calls, Numeric f u := fun u member => numeric f u (mem_values.1 member)
      rcases holds_numeric given holds with ⟨n, stands⟩ | ⟨setting, x, rfl⟩
      · exact absurd stands (bad n)
      · exact ⟨f, x, setting, holds, Coercion.exists_refused_iff.2 bad⟩
    · rintro ⟨f, x, -, holds, refused⟩
      exact ⟨f, .float x, holds, Coercion.exists_refused_iff.1 refused⟩

def endless : List Call :=
  [.set .duration (.int 0), .set .duration (.float (.infinity false)), .set .renewalInterval (.float .nan),
    .set .renewalInterval (.bool true), .set .eviction (.int (-3))]

theorem number_refused_iff_endless :
    (∀ f v, Call.set f v ∈ endless → Numeric f v) ∧
    (∀ f v, Call.set f v ∈ endless → ∀ b e, (set f v b).result ≠ .error e) ∧
    ∃ e, outcome endless fresh = .error e := by
  have given {f : Field} {v : Value} (member : Call.set f v ∈ endless) :
      f = .duration ∧ v = .int 0 ∨ f = .duration ∧ v = .float (.infinity false) ∨
      f = .renewalInterval ∧ v = .float .nan ∨ f = .renewalInterval ∧ v = .bool true ∨
      f = .eviction ∧ v = .int (-3) := by
    simpa [endless] using member
  have numeric : ∀ f v, Call.set f v ∈ endless → Numeric f v := by
    intro f v member
    rcases given member with ⟨rfl, rfl⟩ | ⟨rfl, rfl⟩ | ⟨rfl, rfl⟩ | ⟨rfl, rfl⟩ | ⟨rfl, rfl⟩
    · exact .int 0
    · exact .float _ rfl
    · exact .float _ rfl
    · exact .bool true rfl
    · exact .int (-3)
  obtain ⟨setters, build⟩ := number_refused_iff endless numeric
  refine ⟨numeric, fun f v member b e refused => ?_, build.2 ?_⟩
  · obtain ⟨-, -, n, same, -, long⟩ := (setters f v member b e).1 refused
    rcases given member with ⟨-, rfl⟩ | ⟨-, rfl⟩ | ⟨-, rfl⟩ | ⟨-, rfl⟩ | ⟨-, rfl⟩ <;> cases same
    · exact absurd long (by decide)
    · exact absurd long (by decide)
  · have last : Holds .duration 90 ([.int 0] ++ .float (.infinity false) :: []) (.float (.infinity false)) :=
      .last (.usable rfl .infinity) (by simp)
    exact ⟨.duration, .infinity false, rfl, last, .notFinite, .infinity false⟩

/-- A setting at or below zero is refused if it is too long to be reported, and one that is no number
fails the build. -/
theorem number_refused :
    let long : Int := -Decimal.beyond Decimal.digitLimit
    Numeric .duration (.int long) ∧ set .duration (.int long) fresh = ⟨.error .integerUnwritable, fresh, []⟩ ∧
    Numeric .duration (.float .nan) ∧
    outcome [.set .duration (.float .nan)] fresh =
      .error (.rejected .lease [⟨["duration_in_secs"], .notFinite⟩]) := by
  intro long
  have small : long ≤ 0 := Int.neg_nonpos_of_nonneg (Int.natCast_nonneg _)
  have many : Decimal.digitLimit < Decimal.digitCount long := by
    have hidden := Decimal.not_fits_beyond
    rw [Decimal.fits, decide_eq_true_eq] at hidden
    rw [Decimal.digitCount, Int.natAbs_neg]
    exact Nat.not_le.1 hidden
  refine ⟨.int long, ?_, .float _ rfl, rfl⟩
  rw [set_eq, accepted_of_refuses (.long rfl small many)]

end ServiceLease.Builder
