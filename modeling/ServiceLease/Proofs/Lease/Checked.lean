import ServiceLease.Lease.Checked

/-! Which six values make a lease, and which issues are reported of others. -/
namespace ServiceLease

namespace Checked

variable {α β : Type}

theorem seq_eq_valid_iff {f : Checked (α → β)} {x : Checked α} {b : β} :
    f <*> x = .valid b ↔ ∃ g a, f = .valid g ∧ x = .valid a ∧ g a = b := by
  cases f <;> cases x <;> simp [Seq.seq, apply]

theorem map_eq_valid_iff {g : α → β} {x : Checked α} {b : β} :
    g <$> x = .valid b ↔ ∃ a, x = .valid a ∧ g a = b := by
  cases x <;> simp [Functor.map, apply]

theorem named_eq_valid_iff {name : String} {r : Except Complaint α} {a : α} :
    named name r = .valid a ↔ r = .ok a := by
  cases r <;> simp [named]

theorem under_eq_valid_iff {name : String} {x : Checked α} {a : α} : x.under name = .valid a ↔ x = .valid a := by
  cases x <;> simp [under]

@[simp] theorem issues_map (g : α → β) (x : Checked α) : (g <$> x).issues = x.issues := by
  cases x <;> rfl

theorem eq_invalid {x : Checked α} (found : x.issues ≠ []) : x = .invalid x.issues := by
  cases x with
  | valid a => exact absurd rfl found
  | invalid issues => rfl

end Checked

namespace Lease

variable {integer : Value → Except Complaint Int}

theorem check_eq_valid_iff {name : Field → String} {x : Fields Value} {l : Lease} :
    check integer name x = .valid l ↔ ∀ f, integer (x.get f) = .ok (l.get f) := by
  simp only [check, Checked.seq_eq_valid_iff, Checked.map_eq_valid_iff, Checked.named_eq_valid_iff]
  constructor
  · rintro ⟨_, _, ⟨_, _, ⟨_, _, ⟨_, _, ⟨_, _, ⟨a, ha, rfl⟩, hb, rfl⟩, hc, rfl⟩, hd, rfl⟩, he, rfl⟩, hf, rfl⟩ f
    cases f <;> assumption
  · intro whole
    exact ⟨_, _, ⟨_, _, ⟨_, _, ⟨_, _, ⟨_, _, ⟨_, whole .renewalInterval, rfl⟩, whole .duration, rfl⟩,
      whole .registration, rfl⟩, whole .lastRenewal, rfl⟩, whole .eviction, rfl⟩, whole .serviceUp, rfl⟩

def fieldIssues (integer : Value → Except Complaint Int) (name : Field → String) (x : Fields Value) (f : Field) :
    List Issue :=
  match integer (x.get f) with
  | .ok _ => []
  | .error complaint => [⟨[name f], complaint⟩]

theorem issues_named (integer : Value → Except Complaint Int) (name : Field → String) (x : Fields Value) (f : Field) :
    (Checked.named (name f) (integer (x.get f))).issues = fieldIssues integer name x f := by
  unfold fieldIssues
  cases integer (x.get f) <;> rfl

/-- Every field that fails is reported once, in the order of the fields. -/
theorem check_issues (integer : Value → Except Complaint Int) (name : Field → String) (x : Fields Value) :
    (check integer name x).issues = Field.all.flatMap (fieldIssues integer name x) := by
  simp only [check, Checked.issues_seq, Checked.issues_map, issues_named, Field.all,
    List.flatMap_cons, List.flatMap_nil, List.append_assoc, List.append_nil]

/-- Six values that stand for integers make the lease of those. -/
theorem ofValues_of_integers {name : Field → String} {x : Fields Value} {l : Lease}
    (whole : ∀ f, integer (x.get f) = .ok (l.get f)) : ofValues integer name x = .ok l := by
  rw [ofValues, check_eq_valid_iff.2 whole]

/-- A lease is made of six values only if they stand for its integers. -/
theorem integer_of_ofValues {name : Field → String} {x : Fields Value} {l : Lease}
    (made : ofValues integer name x = .ok l) (f : Field) : integer (x.get f) = .ok (l.get f) := by
  unfold ofValues at made
  split at made
  · next valid =>
    cases made
    exact check_eq_valid_iff.1 valid f
  · cases made

theorem ofValues_refused {name : Field → String} {x : Fields Value}
    (found : Field.all.flatMap (fieldIssues integer name x) ≠ []) :
    ofValues integer name x = .error (.rejected .lease (Field.all.flatMap (fieldIssues integer name x))) := by
  rw [← check_issues] at found ⊢
  rw [ofValues, Checked.eq_invalid found]
  rfl

def complaint? (integer : Value → Except Complaint Int) (x : Fields Value) (f : Field) : Option (Field × Complaint) :=
  match integer (x.get f) with
  | .ok _ => none
  | .error complaint => some (f, complaint)

def complaints (integer : Value → Except Complaint Int) (x : Fields Value) : List (Field × Complaint) :=
  Field.all.filterMap (complaint? integer x)

theorem complaint?_eq_some_iff {x : Fields Value} {f : Field} {r : Field × Complaint} :
    complaint? integer x f = some r ↔ r.1 = f ∧ integer (x.get f) = .error r.2 := by
  obtain ⟨g, complaint⟩ := r
  unfold complaint?
  cases integer (x.get f) <;> simp [eq_comm]

theorem mem_complaints {x : Fields Value} {r : Field × Complaint} :
    r ∈ complaints integer x ↔ integer (x.get r.1) = .error r.2 := by
  rw [complaints, List.mem_filterMap]
  constructor
  · rintro ⟨f, -, wrong⟩
    obtain ⟨rfl, failed⟩ := complaint?_eq_some_iff.1 wrong
    exact failed
  · intro failed
    exact ⟨r.1, Field.mem_all r.1, complaint?_eq_some_iff.2 ⟨rfl, failed⟩⟩

/-- No field is listed twice or out of order. -/
theorem complaints_sublist (integer : Value → Except Complaint Int) (x : Fields Value) :
    ((complaints integer x).map Prod.fst).Sublist Field.all := by
  have each (f : Field) :
      (complaint? integer x f).map Prod.fst = Option.guard (fun f => (complaint? integer x f).isSome) f := by
    cases wrong : complaint? integer x f with
    | none => simp [Option.guard, wrong]
    | some r => simp [Option.guard, wrong, (complaint?_eq_some_iff.1 wrong).1]
  rw [complaints, List.map_filterMap, funext each, List.filterMap_eq_filter]
  exact List.filter_sublist

theorem issues_eq_complaints (integer : Value → Except Complaint Int) (name : Field → String) (x : Fields Value) :
    Field.all.flatMap (fieldIssues integer name x) = (complaints integer x).map fun r => ⟨[name r.1], r.2⟩ := by
  rw [complaints]
  induction Field.all with
  | nil => rfl
  | cons f rest ih =>
    rw [List.flatMap_cons, ih, List.filterMap_cons, fieldIssues, complaint?]
    cases integer (x.get f) <;> rfl

/-- Six values make a lease or are refused with all complaints about them. -/
theorem ofValues_eq_ok_or_error (integer : Value → Except Complaint Int) (name : Field → String) (x : Fields Value) :
    (complaints integer x = [] ∧ ∃ l, ofValues integer name x = .ok l) ∨
    (complaints integer x ≠ [] ∧
      ofValues integer name x = .error (.rejected .lease ((complaints integer x).map fun r => ⟨[name r.1], r.2⟩))) := by
  by_cases none : complaints integer x = []
  · refine .inl ⟨none, ?_⟩
    have whole (f : Field) : ∃ n, integer (x.get f) = .ok n := by
      cases read : integer (x.get f) with
      | ok n => exact ⟨n, rfl⟩
      | error complaint =>
        have listed : (f, complaint) ∈ complaints integer x := mem_complaints.2 read
        rw [none] at listed
        cases listed
    have ⟨a, ha⟩ := whole .renewalInterval
    have ⟨b, hb⟩ := whole .duration
    have ⟨c, hc⟩ := whole .registration
    have ⟨d, hd⟩ := whole .lastRenewal
    have ⟨e, he⟩ := whole .eviction
    have ⟨g, hg⟩ := whole .serviceUp
    exact ⟨⟨a, b, c, d, e, g⟩, ofValues_of_integers fun f => by cases f <;> assumption⟩
  · refine .inr ⟨none, ?_⟩
    rw [← issues_eq_complaints]
    apply ofValues_refused
    rw [issues_eq_complaints]
    simpa using none

theorem ofValues_eq_ok_iff {name : Field → String} {x : Fields Value} {l : Lease} :
    ofValues integer name x = .ok l ↔ ∀ f, integer (x.get f) = .ok (l.get f) :=
  ⟨integer_of_ofValues, ofValues_of_integers⟩

/-- The names are for complaints alone: whether six values make a lease, and which, does not depend on them. -/
theorem ofValues_any_name (integer : Value → Except Complaint Int) (x : Fields Value) :
    (∃ l, ∀ name, ofValues integer name x = .ok l) ∨
    (complaints integer x ≠ [] ∧
      ∀ name, ofValues integer name x =
        .error (.rejected .lease ((complaints integer x).map fun r => ⟨[name r.1], r.2⟩))) := by
  rcases ofValues_eq_ok_or_error integer Field.label x with ⟨-, l, made⟩ | ⟨some, -⟩
  · exact .inl ⟨l, fun name => ofValues_of_integers (integer_of_ofValues made)⟩
  · refine .inr ⟨some, fun name => ?_⟩
    rcases ofValues_eq_ok_or_error integer name x with ⟨none, -⟩ | ⟨-, refused⟩
    · exact absurd none some
    · exact refused

theorem ofValues_refused_iff {name : Field → String} {x : Fields Value} :
    (∃ failure, ofValues integer name x = .error failure) ↔ ∃ f, ∀ n, integer (x.get f) ≠ .ok n := by
  rcases ofValues_eq_ok_or_error integer name x with ⟨-, l, made⟩ | ⟨some, refused⟩
  · constructor
    · rintro ⟨failure, failed⟩
      rw [made] at failed
      cases failed
    · rintro ⟨f, bad⟩
      exact absurd (integer_of_ofValues made f) (bad (l.get f))
  · obtain ⟨r, member⟩ := List.exists_mem_of_ne_nil _ some
    have bad : ∀ n, integer (x.get r.1) ≠ .ok n := by
      intro n whole
      rw [mem_complaints.1 member] at whole
      cases whole
    exact ⟨fun _ => ⟨r.1, bad⟩, fun _ => ⟨_, refused⟩⟩

/-- The fields of a lease make that lease again, whatever they are. -/
theorem ofValues_ints (name : Field → String) (l : Lease) : ofValues Coercion.integer name (l.map .int) = .ok l :=
  ofValues_of_integers fun f => by rw [Fields.get_map]; rfl

/-- With one field of a lease replaced, only that field can be refused. -/
theorem ofValues_set (name : Field → String) (l : Lease) (f : Field) (v : Value) :
    ofValues Coercion.integer name ((l.map .int).set f v) =
      match Coercion.integer v with
      | .ok n => .ok (l.set f n)
      | .error complaint => .error (.rejected .lease [⟨[name f], complaint⟩]) := by
  cases h : Coercion.integer v with
  | ok n =>
    refine ofValues_of_integers fun g => ?_
    by_cases same : g = f
    · simp [same, h]
    · simp [same, Coercion.integer, Coercion.integerIn]
  | error complaint =>
    have one (g : Field) : fieldIssues Coercion.integer name ((l.map .int).set f v) g =
        if g = f then [⟨[name f], complaint⟩] else [] := by
      by_cases same : g = f
      · simp [fieldIssues, same, h]
      · simp [fieldIssues, same, Coercion.integer, Coercion.integerIn]
    have only : Field.all.flatMap (fieldIssues Coercion.integer name ((l.map .int).set f v)) =
        [⟨[name f], complaint⟩] := by
      rw [funext one]
      cases f <;> rfl
    rw [ofValues_refused (by simp [only]), only]

end Lease

end ServiceLease
