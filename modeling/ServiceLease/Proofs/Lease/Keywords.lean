import ServiceLease.Proofs.Lease.Validation

/-! Leases given by keywords. Keywords that hold every field under its wire name say what an object of
the same members says; only the names in complaints are others. -/
namespace ServiceLease.Lease

open Coercion (StandsFor Refused)

/-- Keywords under the wire names go before all others, and a complaint uses these names. -/
theorem ofKeywords_of_named {given : Members} {x : Fields Value}
    (named : ∀ f : Field, given.lookup f.wireName = some (x.get f)) :
    ofKeywords given = ofValues Coercion.integer Field.wireName x := by
  have name (f : Field) : (if (given.lookup f.wireName).isSome then f.wireName else f.label) = f.wireName := by
    rw [named]
    rfl
  have values : (Fields.ofFn fun f : Field => (given.lookup f.wireName).getD (.int f.initial)) = x := by
    refine Fields.ext_get fun f => ?_
    rw [Fields.get_ofFn, named, Option.getD_some]
  simp only [ofKeywords, name]
  rw [values]

theorem unwrap_of_bare {given : Members} (bare : ∀ inner, given.lookup rootName ≠ some (.object inner)) :
    unwrap given = given := by
  unfold unwrap
  split
  · next inner found => exact absurd found (bare inner)
  · rfl

/-- Members that name all six values and wrap none, given as keywords and read as an object, make the same lease,
or are refused with the same complaints in the same order: under the wire names as keywords, under the labels
as an object. Both follow from the values under the wire names, whatever else is given. -/
theorem keywords_read_alike (given : Members)
    (complete : ∀ f : Field, ∃ v, given.lookup f.wireName = some v ∧ v ≠ .null)
    (bare : ∀ inner, given.lookup rootName ≠ some (.object inner)) :
    (∃ l, ofKeywords given = .ok l ∧ ofValue (.object given) = .ok l ∧
      ∀ (f : Field) v, given.lookup f.wireName = some v → StandsFor v (l.get f)) ∨
    ∃ refused : List (Field × Complaint), refused ≠ [] ∧
      ofKeywords given = .error (.rejected .lease (refused.map fun r => ⟨[r.1.wireName], r.2⟩)) ∧
      ofValue (.object given) = .error (.rejected .lease (refused.map fun r => ⟨[r.1.label], r.2⟩)) ∧
      ∀ (f : Field) complaint, (f, complaint) ∈ refused ↔
        ∃ v, given.lookup f.wireName = some v ∧ Refused v complaint := by
  have named (f : Field) : given.lookup f.wireName = some ((effective given).get f) := by
    obtain ⟨v, found, stated⟩ := complete f
    have inner : (unwrap given).lookup f.wireName = some v := by rw [unwrap_of_bare bare, found]
    rw [effective_of_lookup inner stated, found]
  have keywords : ofKeywords given = ofValues Coercion.integer Field.wireName (effective given) := ofKeywords_of_named named
  have object : ofValue (.object given) = ofValues Coercion.integer Field.label (effective given) := rfl
  rcases ofValues_any_name Coercion.integer (effective given) with ⟨l, made⟩ | ⟨some, refused⟩
  · refine .inl ⟨l, keywords.trans (made _), object.trans (made _), fun f v found => ?_⟩
    obtain rfl : (effective given).get f = v := Option.some.inj ((named f).symm.trans found)
    exact Coercion.integer_eq_ok_iff.1 (integer_of_ofValues (made Field.label) f)
  · refine .inr ⟨_, some, keywords.trans (refused _), object.trans (refused _), fun f complaint => ?_⟩
    simp only [mem_complaints, named, Option.some.injEq, exists_eq_left', Coercion.integer_eq_error_iff]

theorem wireName_injective : Function.Injective Field.wireName := by
  intro f g same
  cases f <;> cases g <;> first | rfl | exact absurd same (by decide)

def contested (lastRenewal serviceUp : Value) : Members :=
  [("duration_in_secs", .int 7), ("serviceUpTimestamp", serviceUp), ("durationInSecs", .text " +3_0.0"),
    ("renewalTimestamp", .int 8), ("lastRenewalTimestamp", lastRenewal), ("leaseInfo", .list [.object []]),
    ("renewalIntervalInSecs", .int (-5)), ("evictionTimestamp", .bool true), ("registrationTimestamp", .int 0)]

theorem keywords_read_alike_contested :
    let sound := contested (.text "-4") (.int 9)
    let unsound := contested (.text "never") (.list [])
    ((∀ f : Field, ∃ v, sound.lookup f.wireName = some v ∧ v ≠ .null) ∧
      (∀ inner, sound.lookup rootName ≠ some (.object inner)) ∧
      ofValue (.object sound) = .ok ⟨-5, 30, 0, -4, 1, 9⟩) ∧
    (∀ f : Field, ∃ v, unsound.lookup f.wireName = some v ∧ v ≠ .null) ∧
    (∀ inner, unsound.lookup rootName ≠ some (.object inner)) ∧
    ofKeywords unsound = .error (.rejected .lease
      [⟨["lastRenewalTimestamp"], .unreadableInteger⟩, ⟨["serviceUpTimestamp"], .notInteger⟩]) ∧
    ofValue (.object unsound) = .error (.rejected .lease
      [⟨["last_renewal_timestamp"], .unreadableInteger⟩, ⟨["service_up_timestamp"], .notInteger⟩]) := by
  intro sound unsound
  have complete {a b : Value} (last : a ≠ .null) (up : b ≠ .null) (f : Field) :
      ∃ v, (contested a b).lookup f.wireName = some v ∧ v ≠ .null := by
    cases f <;> exact ⟨_, rfl, by simp [last, up]⟩
  have bare {a b : Value} : ∀ inner, (contested a b).lookup rootName ≠ some (.object inner) := by
    rintro inner ⟨⟩
  refine ⟨⟨complete (by simp) (by simp), bare, ?_⟩, complete (by simp) (by simp), bare, ?_⟩
  · have made : ofKeywords sound = .ok ⟨-5, 30, 0, -4, 1, 9⟩ := rfl
    rcases keywords_read_alike sound (complete (by simp) (by simp)) bare with ⟨l, same, object, -⟩ | ⟨_, -, refused, -⟩
    · cases made.symm.trans same
      exact object
    · cases made.symm.trans refused
  · have refusal : ofKeywords unsound = .error (.rejected .lease
        [⟨["lastRenewalTimestamp"], .unreadableInteger⟩, ⟨["serviceUpTimestamp"], .notInteger⟩]) := rfl
    refine ⟨refusal, ?_⟩
    rcases keywords_read_alike unsound (complete (by simp) (by simp)) bare with ⟨l, made, -⟩ | ⟨refused, -, same, object, -⟩
    · cases refusal.symm.trans made
    · have reported := same.symm.trans refusal
      simp only [Except.error.injEq, Failure.rejected.injEq, true_and, List.map_eq_cons_iff, List.map_eq_nil_iff,
        Issue.mk.injEq, List.cons.injEq, and_true] at reported
      obtain ⟨⟨f, _⟩, _, rfl, ⟨first, rfl⟩, ⟨g, _⟩, _, rfl, ⟨second, rfl⟩, rfl⟩ := reported
      obtain rfl : f = .lastRenewal := wireName_injective first
      obtain rfl : g = .serviceUp := wireName_injective second
      exact object

end ServiceLease.Lease
