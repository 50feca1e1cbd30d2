import ServiceLease.Lease.Wire
import ServiceLease.Proofs.Value

/-! What a reader takes from an object. Six values decide, each found by its name; where they
stand and what stands beside them shows neither in the lease nor in what is reported. -/
namespace ServiceLease.Lease

/-! The values that count. -/

def orZero : Option Value → Value
  | none => .int 0
  | some .null => .int 0
  | some v => v

def lastRenewal? (source : Members) : Option Value :=
  match source.lookup "lastRenewalTimestamp" with
  | none => source.lookup "renewalTimestamp"
  | some .null => source.lookup "renewalTimestamp"
  | some v => some v

/-- What an object says of a lease, in the six names alone. -/
def canonical (given : Members) : Members :=
  let source := match given.lookup "leaseInfo" with
    | some (.object inner) => inner
    | _ => given
  [("renewalIntervalInSecs", orZero (source.lookup "renewalIntervalInSecs")),
    ("durationInSecs", orZero (source.lookup "durationInSecs")),
    ("registrationTimestamp", orZero (source.lookup "registrationTimestamp")),
    ("lastRenewalTimestamp", orZero (lastRenewal? source)),
    ("evictionTimestamp", orZero (source.lookup "evictionTimestamp")),
    ("serviceUpTimestamp", orZero (source.lookup "serviceUpTimestamp"))]

theorem orZero_eq (v : Option Value) : orZero v = (Value.present? v).getD (.int 0) := by
  rcases v with _ | v
  · rfl
  · cases v <;> rfl

theorem orZero_ne_null (v : Option Value) : orZero v ≠ .null := by
  rcases v with _ | v
  · simp [orZero]
  · cases v <;> simp [orZero]

theorem effective_of_other (given : Members) {f : Field} (other : f ≠ .lastRenewal) :
    (effective given).get f = orZero ((unwrap given).lookup f.wireName) := by
  rw [orZero_eq, effective, Fields.get_ofFn, wireValue?, if_neg other, Members.find?]
  cases Value.present? ((unwrap given).lookup f.wireName) <;> rfl

theorem effective_lastRenewal (given : Members) :
    (effective given).get .lastRenewal = orZero (lastRenewal? (unwrap given)) := by
  have name : Field.lastRenewal.wireName = "lastRenewalTimestamp" := rfl
  rw [orZero_eq, effective, Fields.get_ofFn, wireValue?, if_pos rfl, Members.find?, name, lastRenewal?]
  rcases (unwrap given).lookup "lastRenewalTimestamp" with _ | v
  · rfl
  · cases v <;> rfl

/-- A field with a value under its own name has that value. -/
theorem effective_of_lookup {given : Members} {f : Field} {v : Value}
    (found : (unwrap given).lookup f.wireName = some v) (stated : v ≠ .null) : (effective given).get f = v := by
  have named : (unwrap given).find? f.wireName = some v := Value.present?_eq_some_iff.2 ⟨found, stated⟩
  rw [effective, Fields.get_ofFn, wireValue?, named]
  rfl

/-- A canonical object has the values that are read. -/
theorem lookup_canonical (given : Members) (f : Field) :
    (canonical given).lookup f.wireName = some ((effective given).get f) := by
  cases f with
  | lastRenewal =>
    rw [effective_lastRenewal]
    rfl
  | _ =>
    rw [effective_of_other given (by decide)]
    rfl

theorem effective_ne_null (given : Members) (f : Field) : (effective given).get f ≠ .null := by
  cases f with
  | lastRenewal =>
    rw [effective_lastRenewal]
    exact orZero_ne_null _
  | _ =>
    rw [effective_of_other given (by decide)]
    exact orZero_ne_null _

/-- It has no object under the root name. -/
theorem unwrap_canonical (given : Members) : unwrap (canonical given) = canonical given := rfl

theorem effective_canonical (given : Members) : effective (canonical given) = effective given := by
  refine Fields.ext_get fun f => effective_of_lookup ?_ (effective_ne_null given f)
  rw [unwrap_canonical, lookup_canonical]

/-! Objects that cannot be told apart. -/

/-- Two objects that say the same of a lease: under the six names, and under the older one where
it counts. Null says as much as nothing. -/
structure Alike (a b : Members) : Prop where
  named : ∀ f : Field, (unwrap a).find? f.wireName = (unwrap b).find? f.wireName
  legacy : (unwrap a).find? Field.lastRenewal.wireName = none →
    (unwrap a).find? legacyName = (unwrap b).find? legacyName

theorem effective_of_alike {a b : Members} (alike : Alike a b) : effective a = effective b := by
  refine Fields.ext_get fun f => ?_
  rw [effective, effective, Fields.get_ofFn, Fields.get_ofFn, wireValue?, wireValue?, ← alike.named f]
  cases canonical : (unwrap a).find? f.wireName with
  | some v => rfl
  | none =>
    by_cases last : f = .lastRenewal
    · subst last
      simp only [if_true, alike.legacy canonical]
    · simp only [if_neg last]

/-- A reader does not see the order of members. -/
theorem lookup_unwrap {a b : Members} (same : ∀ name, a.lookup name = b.lookup name) (name : String) :
    (unwrap a).lookup name = (unwrap b).lookup name := by
  unfold unwrap
  rw [← same rootName]
  split
  · rfl
  · exact same name

theorem alike_of_lookup {a b : Members} (same : ∀ name, a.lookup name = b.lookup name) : Alike a b := by
  have found (name : String) : (unwrap a).find? name = (unwrap b).find? name :=
    congrArg Value.present? (lookup_unwrap same name)
  exact ⟨fun f => found f.wireName, fun _ => found legacyName⟩

/-- An object gives the lease, or the issues, of the object of the six names that it comes down to.
Nothing else in it counts: not the order of its members, not any other name, not what stands
beside an object under the root name, and not the older name of the last renewal where the
other one has a value, whatever that value is. -/
theorem read_as_canonical (given : Members) :
    ofValue (.object given) = ofValue (.object (canonical given)) ∧
    (canonical given).map Prod.fst =
      ["renewalIntervalInSecs", "durationInSecs", "registrationTimestamp", "lastRenewalTimestamp",
        "evictionTimestamp", "serviceUpTimestamp"] ∧
    (∀ other, Alike given other → ofValue (.object other) = ofValue (.object given)) ∧
    ∀ other, (given.map Prod.fst).Nodup → other.Perm given → ofValue (.object other) = ofValue (.object given) := by
  have same {other : Members} (alike : Alike given other) : ofValue (.object other) = ofValue (.object given) := by
    rw [ofValue_object, ofValue_object, ofMembers_eq, ofMembers_eq, effective_of_alike alike]
  refine ⟨?_, rfl, fun other alike => same alike, ?_⟩
  · rw [ofValue_object, ofValue_object, ofMembers_eq, ofMembers_eq, effective_canonical]
  · intro other once reordered
    apply same
    apply alike_of_lookup
    intro name
    exact (lookup_of_perm once reordered name).symm

def crowded : Members :=
  [("durationInSecs", .text "soon"),
    ("leaseInfo", .object [("renewalTimestamp", .list []), ("duration_in_secs", .int 7), ("durationInSecs", .null),
      ("lastRenewalTimestamp", .bool true), ("leaseInfo", .object [("durationInSecs", .int 8)]),
      ("evictionTimestamp", .text "never")])]

def plainer : Members :=
  [("leaseInfo", .object [("evictionTimestamp", .text "never"), ("lastRenewalTimestamp", .bool true)])]

theorem read_as_canonical_crowded :
    Alike crowded plainer ∧ (crowded.map Prod.fst).Nodup ∧ crowded.reverse.Perm crowded ∧
    ofValue (.object crowded) = .error (.rejected .lease [⟨["eviction_timestamp"], .unreadableInteger⟩]) ∧
    ofValue (.object plainer) = ofValue (.object crowded) ∧
    ofValue (.object crowded.reverse) = ofValue (.object crowded) := by
  have alike : Alike crowded plainer := by
    refine ⟨fun f => ?_, fun absent => ?_⟩
    · cases f <;> rfl
    · cases absent
  have once : (crowded.map Prod.fst).Nodup := by decide
  have reversed := List.reverse_perm crowded
  obtain ⟨canonical, -, others, reordered⟩ := read_as_canonical crowded
  exact ⟨alike, once, reversed, canonical.trans rfl, others _ alike, reordered _ once reversed⟩

end ServiceLease.Lease
