import ServiceLease.Proofs.Json.Nesting
import ServiceLease.Proofs.Lease.Validation

/-! Why a text is refused as a lease in JSON. A text outside the grammar is refused as such, one with an integer beyond
the limit for that, and an object for its values. A value that is no object fails in a way that is none of these, and
so does a text that needs more levels than are left. -/
namespace ServiceLease.Lease

open Coercion (StandsForIn)

/-- The failures that a reader of JSON is meant to have, each with its reason: the text is no JSON, an integer in it
is beyond the limit, or a value in it that counts for a lease stands for no integer. -/
inductive Documented (levels : Nat) (minusCounts : Bool) (text : String) : Failure → Prop where
  | malformed {e : Json.Error} : ¬ Json.Grammatical text.toList →
      Documented levels minusCounts text (.json (.malformed e))
  | tooLong {digits : Nat} : Decimal.digitLimit < digits → Json.HoldsInteger text.toList digits →
      Documented levels minusCounts text (.json (.tooLong digits))
  | rejected {given : Members} {f : Field} {issues : List Issue} :
      Json.readIn levels text = .ok (.object given) → (∀ n, ¬ StandsForIn minusCounts (said given f) n) →
      Documented levels minusCounts text (.rejected .lease issues)

section

variable {levels : Nat} {minusCounts : Bool} {text : String}

theorem ofJson_of_error {e : Json.Failure} (unread : Json.readIn levels text = .error e) :
    ofJsonIn levels minusCounts text = .error (.json e) := by
  rw [ofJsonIn, unread]

theorem ofJson_of_object {given : Members} (read : Json.readIn levels text = .ok (.object given)) :
    ofJsonIn levels minusCounts text = ofMembersIn minusCounts given := by
  rw [ofJsonIn, read]
  rfl

theorem ofJson_of_other {v : Value} (read : Json.readIn levels text = .ok v) (other : v.kind ≠ .object) :
    ofJsonIn levels minusCounts text = .error (.notAnObject v.kind) := by
  rw [ofJsonIn, read]
  cases v with
  | object given => exact absurd rfl other
  | _ => rfl

/-- A text has no value, the value of it is an object, or it is another one. -/
theorem read_cases (levels : Nat) (text : String) :
    (∃ e, Json.readIn levels text = .error e) ∨ (∃ given, Json.readIn levels text = .ok (.object given)) ∨
      ∃ v, Json.readIn levels text = .ok v ∧ v.kind ≠ .object := by
  cases Json.readIn levels text with
  | error e => exact .inl ⟨e, rfl⟩
  | ok v =>
    cases v with
    | object given => exact .inr (.inl ⟨given, rfl⟩)
    | _ => exact .inr (.inr ⟨_, rfl, by simp [Value.kind]⟩)

theorem ofJson_eq_ok_iff {l : Lease} :
    ofJsonIn levels minusCounts text = .ok l ↔
      ∃ given, Json.readIn levels text = .ok (.object given) ∧ ofMembersIn minusCounts given = .ok l := by
  rcases read_cases levels text with ⟨e, unread⟩ | ⟨given, read⟩ | ⟨v, read, other⟩
  · simp [ofJson_of_error unread, unread]
  · simp [ofJson_of_object read, read]
  · rw [ofJson_of_other read other]
    constructor
    · rintro ⟨⟩
    · rintro ⟨given, object, -⟩
      cases read.symm.trans object
      exact absurd rfl other

/-- A text without a value is refused for a documented reason, or because levels are missing. -/
theorem documented_of_error {e : Json.Failure} (unread : Json.readIn levels text = .error e) :
    Documented levels minusCounts text (.json e) ∨ ∃ need, e = .tooDeep need := by
  cases e with
  | malformed e =>
    refine .inl (.malformed ?_)
    rintro ⟨room, grammatical⟩
    rcases Json.read_of_grammatical levels grammatical with ⟨v, read⟩ | ⟨digits, tooLong⟩ | ⟨-, need, tooDeep⟩
    · cases unread.symm.trans read
    · cases unread.symm.trans tooLong
    · cases unread.symm.trans tooDeep
  | tooLong digits =>
    obtain ⟨many, held⟩ := Json.holdsInteger_of_read unread
    exact .inl (.tooLong many held)
  | tooDeep need => exact .inr ⟨need, rfl⟩

theorem documented_of_object {given : Members} {failure : Failure}
    (read : Json.readIn levels text = .ok (.object given)) (refused : ofMembersIn minusCounts given = .error failure) :
    Documented levels minusCounts text failure := by
  obtain ⟨f, none⟩ := ofMembers_refused_iff.1 ⟨failure, refused⟩
  rw [rejected_of_ofMembers refused]
  exact .rejected read none

theorem not_within_of_tooDeep {need : Json.Descent} (tooDeep : Json.readIn levels text = .error (.tooDeep need)) :
    ¬ Json.GrammaticalWithin levels text.toList := by
  intro within
  rcases Json.read_of_grammatical levels within with ⟨v, read⟩ | ⟨digits, tooLong⟩ | ⟨fewer, -⟩
  · cases tooDeep.symm.trans read
  · cases tooDeep.symm.trans tooLong
  · exact absurd fewer (Nat.lt_irrefl levels)

theorem tooDeep_of_not_within (grammatical : Json.Grammatical text.toList)
    (short : ∀ digits, Json.HoldsInteger text.toList digits → digits ≤ Decimal.digitLimit)
    (apart : ¬ Json.GrammaticalWithin levels text.toList) :
    ∃ need, Json.readIn levels text = .error (.tooDeep need) := by
  obtain ⟨room, within⟩ := grammatical
  rcases Json.read_of_grammatical levels within with ⟨v, read⟩ | ⟨digits, tooLong⟩ | ⟨-, tooDeep⟩
  · exact absurd (Json.grammatical_of_read read) apart
  · obtain ⟨many, held⟩ := Json.holdsInteger_of_read tooLong
    exact absurd (short digits held) (Nat.not_le.2 many)
  · exact tooDeep

end

/-- A text makes a lease if it is an object whose six values all stand for integers. If it is refused, this has one
of the documented reasons except in two cases. A value that is no object, which is a list, a text, a number, a flag or
null, fails for having no members to look up; and where more levels are needed than are left, this is what is
reported. That never happens to what is JSON within the levels that are left, and always to other JSON, unless an
integer in it is beyond the limit. What is no JSON is refused as such, or for an integer or for missing levels before
the place where it goes wrong. -/
theorem undocumented_iff_no_object_or_too_deep (levels : Nat) (minusCounts : Bool) (text : String) :
    ((∃ l, ofJsonIn levels minusCounts text = .ok l) ↔
      ∃ given, Json.readIn levels text = .ok (.object given) ∧ ∀ f, ∃ n, StandsForIn minusCounts (said given f) n) ∧
    ((∃ failure, ofJsonIn levels minusCounts text = .error failure ∧
        ¬ Documented levels minusCounts text failure) ↔
      (∃ v, Json.readIn levels text = .ok v ∧ v.kind ≠ .object) ∨
        ∃ need, Json.readIn levels text = .error (.tooDeep need)) ∧
    (∀ v, Json.readIn levels text = .ok v → v.kind ≠ .object →
      ofJsonIn levels minusCounts text = .error (.notAnObject v.kind)) ∧
    (∀ need, Json.readIn levels text = .error (.tooDeep need) →
      ofJsonIn levels minusCounts text = .error (.json (.tooDeep need)) ∧
        ¬ Json.GrammaticalWithin levels text.toList) ∧
    (Json.Grammatical text.toList → ¬ Json.GrammaticalWithin levels text.toList →
      (∀ digits, Json.HoldsInteger text.toList digits → digits ≤ Decimal.digitLimit) →
      ∃ need, ofJsonIn levels minusCounts text = .error (.json (.tooDeep need))) ∧
    (¬ Json.Grammatical text.toList → ∃ e, ofJsonIn levels minusCounts text = .error (.json e)) := by
  refine ⟨?_, ⟨?_, ?_⟩, fun v => ofJson_of_other,
    fun need tooDeep => ⟨ofJson_of_error tooDeep, not_within_of_tooDeep tooDeep⟩,
    fun grammatical apart short => ?_, fun apart => ?_⟩
  · constructor
    · rintro ⟨l, made⟩
      obtain ⟨given, read, checked⟩ := ofJson_eq_ok_iff.1 made
      exact ⟨given, read, fun f => ⟨_, ofMembers_eq_ok_iff.1 checked f⟩⟩
    · rintro ⟨given, read, each⟩
      have whole (f : Field) :
          StandsForIn minusCounts (said given f) ((Fields.ofFn fun f => (each f).choose).get f) := by
        rw [Fields.get_ofFn]
        exact (each f).choose_spec
      exact ⟨_, ofJson_eq_ok_iff.2 ⟨given, read, ofMembers_eq_ok_iff.2 whole⟩⟩
  · rintro ⟨failure, refused, undocumented⟩
    rcases read_cases levels text with ⟨e, unread⟩ | ⟨given, read⟩ | value
    · cases (ofJson_of_error unread).symm.trans refused
      obtain ⟨need, rfl⟩ := (documented_of_error unread).resolve_left undocumented
      exact .inr ⟨need, unread⟩
    · exact absurd (documented_of_object read ((ofJson_of_object read).symm.trans refused)) undocumented
    · exact .inl value
  · rintro (⟨v, read, other⟩ | ⟨need, tooDeep⟩)
    · exact ⟨_, ofJson_of_other read other, by rintro ⟨⟩⟩
    · exact ⟨_, ofJson_of_error tooDeep, by rintro ⟨⟩⟩
  · obtain ⟨need, tooDeep⟩ := tooDeep_of_not_within grammatical short apart
    exact ⟨need, ofJson_of_error tooDeep⟩
  · cases read : Json.readIn levels text with
    | error e => exact ⟨e, ofJson_of_error read⟩
    | ok v => exact absurd ⟨levels, Json.grammatical_of_read read⟩ apart

/-- A list without items. -/
theorem empty_list_undocumented :
    ofJson "[]" = .error (.notAnObject .list) ∧
    (Failure.notAnObject .list).message = "'list' object has no attribute 'get'" ∧
    ¬ ∀ text failure, ofJson text = .error failure → Documented Json.outermost false text failure := by
  have refused : ofJson "[]" = .error (.notAnObject .list) := rfl
  refine ⟨refused, by decide, fun documented => ?_⟩
  cases documented _ _ refused

/-- However many levels are left, some object needs more of them. -/
theorem nested_undocumented (levels : Nat) (minusCounts : Bool) :
    Json.Grammatical (Json.nestedText levels).toList ∧
    ∃ need, ofJsonIn levels minusCounts (Json.nestedText levels) = .error (.json (.tooDeep need)) ∧
      ¬ Documented levels minusCounts (Json.nestedText levels) (.json (.tooDeep need)) := by
  obtain ⟨need, tooDeep⟩ := Json.read_nestedText levels
  exact ⟨⟨_, Json.nestedText_grammatical levels⟩, need, ofJson_of_error tooDeep, by rintro ⟨⟩⟩

end ServiceLease.Lease
