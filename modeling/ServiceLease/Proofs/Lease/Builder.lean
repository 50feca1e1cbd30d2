import ServiceLease.Lease.Builder
import ServiceLease.Proofs.Action
import ServiceLease.Proofs.Coercion
import ServiceLease.Proofs.Lease.Checked

/-! What one call on a builder does. A setter stores a value or refuses it; a build gives the
latest lease again, makes a new one, or fails. A call that fails leaves the builder alone. -/
namespace ServiceLease

theorem Field.one_le_standard {f : Field} {standard : Int} (setting : f.standard? = some standard) :
    1 ≤ standard := by
  cases f <;> cases setting <;> decide

namespace Builder

/-! Setters. -/

/-- What a setter stores for a value, unless it refuses the value. -/
def accepted (f : Field) (v : Value) : Except Failure Value :=
  match f.standard? with
  | none => .ok v
  | some standard =>
    match unusable v with
    | .error e => .error e
    | .ok false => .ok v
    | .ok true => if v.display?.isSome then .ok (.int standard) else .error .integerUnwritable

def notices (f : Field) (v : Value) : List Notice :=
  match f.standard?, unusable v with
  | some standard, .ok true => [.settingReplaced f v standard]
  | _, _ => []

theorem set_eq (f : Field) (v : Value) (b : Builder) :
    set f v b =
      match accepted f v with
      | .ok w => ⟨.ok (), store f w b, notices f v⟩
      | .error e => ⟨.error e, b, []⟩ := by
  unfold set accepted notices
  cases f.standard? with
  | none => rfl
  | some standard =>
    cases unusable v with
    | error e => rfl
    | ok replaced =>
      cases replaced with
      | false => rfl
      | true =>
        simp only [Action.ofExcept_ok_bind, if_true, Action.note_bind, Notice.text?, Option.isSome_map]
        split <;> rfl

/-- A value that is let through as it is stands for no integer below one. The test is on the
value as given, the integer is found only when the lease is built. -/
theorem one_le_of_usable {v : Value} {n : Int} (usable : unusable v = .ok false)
    (whole : Coercion.integer v = .ok n) : 1 ≤ n := by
  cases Coercion.integer_eq_ok_iff.1 whole with
  | no => cases usable
  | yes => decide
  | text spells short => cases usable
  | int m =>
    simp only [unusable, Except.ok.injEq, decide_eq_false_iff_not] at usable
    omega
  | @float negative m scale k ones small =>
    simp only [unusable, Binary64.notPositive, Except.ok.injEq, Bool.or_eq_false_iff,
      beq_eq_false_iff_ne] at usable
    obtain ⟨rfl, nonzero⟩ := usable
    have units : Binary64.units m scale ≠ 0 :=
      Nat.mul_ne_zero nonzero (Nat.ne_of_gt (Nat.two_pow_pos scale))
    have some? : k ≠ 0 := by
      rintro rfl
      exact units (ones.trans (Nat.zero_mul _))
    exact Int.ofNat_le.2 (Nat.pos_of_ne_zero some?)

/-- What a setter stores for a setting stands for no integer below one. -/
theorem one_le_of_accepted {f : Field} {v w : Value} {n : Int} (setting : f.standard?.isSome)
    (stored : accepted f v = .ok w) (whole : Coercion.integer w = .ok n) : 1 ≤ n := by
  unfold accepted at stored
  cases given : f.standard? with
  | none =>
    rw [given] at setting
    cases setting
  | some standard =>
    simp only [given] at stored
    split at stored
    · cases stored
    · next usable =>
      cases stored
      exact one_le_of_usable usable whole
    · split at stored
      · cases stored
        cases whole
        exact Field.one_le_standard given
      · cases stored

/-! Builds. -/

theorem build_eq (b : Builder) :
    build b =
      match b.latest, b.lease with
      | some built, _ => ⟨.ok built, b, []⟩
      | none, .ok l => ⟨.ok ⟨b.count, l⟩, keep l b, []⟩
      | none, .error e => ⟨.error e, b, []⟩ := by
  unfold build
  rw [Action.state_bind]
  cases b.latest with
  | some built => rfl
  | none => cases b.lease <;> rfl

/-! Builders that hold integers are those of a lease. -/

theorem fresh_eq : fresh = ofLease Lease.initial := rfl

theorem store_int (f : Field) (n : Int) (l : Lease) : store f (.int n) (ofLease l) = ofLease (l.set f n) := by
  have fields : (l.map Value.int).set f (.int n) = (l.set f n).map .int := by
    refine Fields.ext_get fun g => ?_
    rw [Fields.get_set, Fields.get_map, Fields.get_map, Fields.get_set]
    split <;> rfl
  rw [store, ofLease, ofLease, ofFields, ofFields, fields]

theorem set_ofLease {f : Field} {v : Value} {n : Int} (stored : accepted f v = .ok (.int n)) (l : Lease) :
    set f v (ofLease l) = ⟨.ok (), ofLease (l.set f n), notices f v⟩ := by
  rw [set_eq, stored]
  simp only [store_int]

theorem set_timestamp {f : Field} (timestamp : f.standard? = none) (n : Int) (l : Lease) :
    set f (.int n) (ofLease l) = ⟨.ok (), ofLease (l.set f n), []⟩ := by
  rw [set, timestamp, ← store_int]
  rfl

theorem build_ofLease (l : Lease) : build (ofLease l) = ⟨.ok ⟨0, l⟩, keep l (ofLease l), []⟩ := by
  have made : (ofLease l).lease = .ok l := Lease.ofValues_ints Field.label l
  rw [build_eq, made]
  rfl

end Builder

end ServiceLease
