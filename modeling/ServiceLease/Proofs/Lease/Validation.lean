import ServiceLease.Proofs.Coercion
import ServiceLease.Proofs.Lease.Checked
import ServiceLease.Proofs.Lease.Wire

/-! Which objects make a lease. Each of the six values that count is checked by itself; all that
stand for no integer are reported, and what stands for one is taken as it is. -/
namespace ServiceLease.Lease

open Coercion (StandsForIn RefusedIn)

/-- The value that an object gives a field. -/
def said (given : Members) (f : Field) : Value := ((canonical given).lookup f.wireName).getD (.int 0)

theorem said_eq (given : Members) (f : Field) : said given f = (effective given).get f := by
  rw [said, lookup_canonical]
  rfl

section

variable {minusCounts : Bool} {given : Members}

theorem mem_complaints_effective {r : Field × Complaint} :
    r ∈ complaints (Coercion.integerIn minusCounts) (effective given) ↔ RefusedIn minusCounts (said given r.1) r.2 := by
  rw [mem_complaints, Coercion.integerIn_eq_error_iff, said_eq]

theorem listed_iff {f : Field} :
    f ∈ (complaints (Coercion.integerIn minusCounts) (effective given)).map Prod.fst ↔
      ∀ n, ¬ StandsForIn minusCounts (said given f) n := by
  rw [← Coercion.exists_refused_iff, List.mem_map]
  constructor
  · rintro ⟨r, member, rfl⟩
    exact ⟨r.2, mem_complaints_effective.1 member⟩
  · rintro ⟨complaint, refused⟩
    exact ⟨(f, complaint), mem_complaints_effective.2 refused, rfl⟩

/-- Every field is the integer of its own value. -/
theorem ofMembers_eq_ok_iff {l : Lease} :
    ofMembersIn minusCounts given = .ok l ↔ ∀ f, StandsForIn minusCounts (said given f) (l.get f) := by
  simp only [ofMembersIn, ofValues_eq_ok_iff, Coercion.integerIn_eq_ok_iff, said_eq]

theorem ofMembers_refused_iff :
    (∃ failure, ofMembersIn minusCounts given = .error failure) ↔
      ∃ f, ∀ n, ¬ StandsForIn minusCounts (said given f) n := by
  simp only [ofMembersIn, ofValues_refused_iff, Coercion.integerIn_eq_ok_iff, said_eq, ne_eq]

/-- A refusal holds all complaints and nothing else. -/
theorem rejected_of_ofMembers {failure : Failure} (failed : ofMembersIn minusCounts given = .error failure) :
    failure = .rejected .lease
      ((complaints (Coercion.integerIn minusCounts) (effective given)).map fun r => ⟨[r.1.label], r.2⟩) := by
  rcases ofValues_eq_ok_or_error (Coercion.integerIn minusCounts) Field.label (effective given) with
    ⟨-, l, made⟩ | ⟨-, refused⟩
  · rw [ofMembersIn, made] at failed
    cases failed
  · rw [ofMembersIn, refused] at failed
    cases failed
    rfl

end

/-- An object is refused exactly if one of the six values that count stands for no integer. All
such fields are reported then, each once and in the order of the fields, for the reason their own
value is refused. Otherwise each field is the integer of its own value, positive or not. Whether a
minus counts as a digit makes no difference to that. -/
theorem each_field_checked (minusCounts : Bool) (given : Members) :
    Field.all.map Field.label =
      ["renewal_interval_in_secs", "duration_in_secs", "registration_timestamp", "last_renewal_timestamp",
        "eviction_timestamp", "service_up_timestamp"] ∧
    (∀ l, ofValueIn minusCounts (.object given) = .ok l ↔ ∀ f, StandsForIn minusCounts (said given f) (l.get f)) ∧
    ((∃ failure, ofValueIn minusCounts (.object given) = .error failure) ↔
      ∃ f, ∀ n, ¬ StandsForIn minusCounts (said given f) n) ∧
    ∀ failure, ofValueIn minusCounts (.object given) = .error failure →
      ∃ refused : List (Field × Complaint),
        failure = .rejected .lease (refused.map fun r => ⟨[r.1.label], r.2⟩) ∧
        (refused.map Prod.fst).Sublist Field.all ∧
        (∀ f, f ∈ refused.map Prod.fst ↔ ∀ n, ¬ StandsForIn minusCounts (said given f) n) ∧
        ∀ r ∈ refused, RefusedIn minusCounts (said given r.1) r.2 := by
  refine ⟨rfl, fun l => ofMembers_eq_ok_iff, ofMembers_refused_iff, fun failure failed => ?_⟩
  refine ⟨complaints (Coercion.integerIn minusCounts) (effective given), rejected_of_ofMembers failed,
    complaints_sublist _ _, fun f => listed_iff, ?_⟩
  exact fun r member => mem_complaints_effective.1 member

example : ofValue (.object [("serviceUpTimestamp", .text "1.5"), ("lastRenewalTimestamp", .null),
    ("renewalTimestamp", .list []), ("durationInSecs", .int (-1)), ("evictionTimestamp", .text "0-1")]) =
    .error (.rejected .lease
      [⟨["last_renewal_timestamp"], .notInteger⟩, ⟨["service_up_timestamp"], .unreadableInteger⟩]) := by
  rfl

end ServiceLease.Lease
