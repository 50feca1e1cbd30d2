import Mathlib.Data.List.Induction
import ServiceLease.Proofs.Lease.BuilderCache

/-! What a run of calls leaves in a builder. Each field is on its own: of the values given for it
the last one that its setter accepts counts, and if there is none, what the builder started with. -/
namespace ServiceLease.Builder

open Coercion (StandsFor)

/-! What a setter accepts. -/

/-- The values above zero, and the float that is no number. -/
inductive Usable : Value → Prop where
  | yes : Usable (.bool true)
  | int {n : Int} : 0 < n → Usable (.int n)
  | nan : Usable (.float .nan)
  | infinity : Usable (.float (.infinity false))
  | float {m scale : Nat} : 0 < m → Usable (.float (.finite false m scale))

inductive Unusable : Value → Prop where
  | null : Unusable .null
  | no : Unusable (.bool false)
  | int {n : Int} : n ≤ 0 → Unusable (.int n)
  | infinity : Unusable (.float (.infinity true))
  | negative (m scale : Nat) : Unusable (.float (.finite true m scale))
  | zero (scale : Nat) : Unusable (.float (.finite false 0 scale))

/-- What a setter stores for the values that it accepts. A timestamp is stored as given. So is a
setting that is usable; one that is not gives way to the standard value, which is reported, so an
integer must have a text. -/
inductive Accepts (f : Field) : Value → Value → Prop where
  | timestamp (v : Value) : f.standard? = none → Accepts f v v
  | usable {v : Value} : f.standard?.isSome → Usable v → Accepts f v v
  | replaced {v : Value} {standard : Int} : f.standard? = some standard → Unusable v →
      (∀ n, v = .int n → Decimal.digitCount n ≤ Decimal.digitLimit) → Accepts f v (.int standard)

/-- The values that a setter of a setting refuses, and how it fails: those that cannot be compared
to zero, and the integers that cannot be reported. -/
inductive Refuses (f : Field) : Value → Failure → Prop where
  | text (s : String) : f.standard?.isSome → Refuses f (.text s) (.incomparable .text)
  | broken (t : Text.Broken) : f.standard?.isSome → Refuses f (.broken t) (.incomparable .text)
  | list (items : List Value) : f.standard?.isSome → Refuses f (.list items) (.incomparable .list)
  | object (members : Members) : f.standard?.isSome → Refuses f (.object members) (.incomparable .object)
  | long {n : Int} : f.standard?.isSome → n ≤ 0 → Decimal.digitLimit < Decimal.digitCount n →
      Refuses f (.int n) .integerUnwritable

theorem unusable_of_usable {v : Value} (usable : Usable v) : unusable v = .ok false := by
  cases usable with
  | yes => rfl
  | int positive => rw [unusable, decide_eq_false (Int.not_le.2 positive)]
  | nan => rfl
  | infinity => rfl
  | float positive => rw [unusable, Binary64.notPositive, beq_eq_false_iff_ne.2 (Nat.ne_of_gt positive), Bool.or_false]

theorem unusable_of_unusable {v : Value} (unusable : Unusable v) : Builder.unusable v = .ok true := by
  cases unusable with
  | int small => rw [Builder.unusable, decide_eq_true small]
  | _ => rfl

/-- Only an integer beyond the limit keeps an unusable value from being shown. -/
theorem display?_isSome_of_unusable {v : Value} (unusable : Unusable v)
    (short : ∀ n, v = .int n → Decimal.digitCount n ≤ Decimal.digitLimit) : v.display?.isSome = true := by
  cases unusable with
  | @int n small =>
    have fits : Decimal.fits n = true := decide_eq_true (short n rfl)
    rw [Value.display?, if_pos fits]
    rfl
  | _ => rfl

theorem accepted_of_accepts {f : Field} {v w : Value} (accepts : Accepts f v w) : accepted f v = .ok w := by
  unfold accepted
  cases accepts with
  | timestamp known => rw [known]
  | usable setting usable =>
    obtain ⟨standard, known⟩ := Option.isSome_iff_exists.1 setting
    rw [known, unusable_of_usable usable]
  | replaced known unusable short =>
    rw [known, unusable_of_unusable unusable]
    exact if_pos (display?_isSome_of_unusable unusable short)

theorem accepted_of_refuses {f : Field} {v : Value} {e : Failure} (refuses : Refuses f v e) : accepted f v = .error e := by
  have setting : f.standard?.isSome := by cases refuses <;> assumption
  obtain ⟨standard, known⟩ := Option.isSome_iff_exists.1 setting
  rw [accepted, known]
  cases refuses with
  | text s => rfl
  | broken t => rfl
  | list items => rfl
  | object members => rfl
  | @long n _ small long =>
    have hidden : (Value.int n).display? = none := by
      rw [Value.display?, if_neg]
      rw [Decimal.fits, decide_eq_true_eq]
      exact Nat.not_le.2 long
    rw [unusable_of_unusable (.int small), hidden]
    rfl

/-- A setter accepts or refuses every value. -/
theorem accepts_or_refuses (f : Field) (v : Value) : (∃ w, Accepts f v w) ∨ ∃ e, Refuses f v e := by
  cases known : f.standard? with
  | none => exact .inl ⟨v, .timestamp v known⟩
  | some standard =>
    have setting : f.standard?.isSome := by rw [known]; rfl
    have kept (usable : Usable v) : ∃ w, Accepts f v w := ⟨v, .usable setting usable⟩
    have replaced (unusable : Unusable v) (other : ∀ n, v ≠ .int n) : ∃ w, Accepts f v w :=
      ⟨_, .replaced known unusable fun n same => absurd same (other n)⟩
    cases v with
    | null => exact .inl (replaced .null nofun)
    | bool b =>
      cases b with
      | false => exact .inl (replaced .no nofun)
      | true => exact .inl (kept .yes)
    | int n =>
      rcases Int.lt_or_le 0 n with positive | small
      · exact .inl (kept (.int positive))
      rcases Nat.lt_or_ge Decimal.digitLimit (Decimal.digitCount n) with long | short
      · exact .inr ⟨_, .long setting small long⟩
      · refine .inl ⟨_, .replaced known (.int small) ?_⟩
        rintro _ ⟨⟩
        exact short
    | float x =>
      cases x with
      | nan => exact .inl (kept .nan)
      | infinity negative =>
        cases negative with
        | false => exact .inl (kept .infinity)
        | true => exact .inl (replaced .infinity nofun)
      | finite negative m scale =>
        cases negative with
        | false =>
          rcases Nat.eq_zero_or_pos m with rfl | positive
          · exact .inl (replaced (.zero scale) nofun)
          · exact .inl (kept (.float positive))
        | true => exact .inl (replaced (.negative m scale) nofun)
    | text s => exact .inr ⟨_, .text s setting⟩
    | broken t => exact .inr ⟨_, .broken t setting⟩
    | list items => exact .inr ⟨_, .list items setting⟩
    | object members => exact .inr ⟨_, .object members setting⟩

theorem accepted_eq_ok_iff {f : Field} {v w : Value} : accepted f v = .ok w ↔ Accepts f v w := by
  refine ⟨fun stored => ?_, accepted_of_accepts⟩
  rcases accepts_or_refuses f v with ⟨u, accepts⟩ | ⟨e, refuses⟩
  · rw [accepted_of_accepts accepts] at stored
    cases stored
    exact accepts
  · rw [accepted_of_refuses refuses] at stored
    cases stored

theorem accepted_eq_error_iff {f : Field} {v : Value} {e : Failure} : accepted f v = .error e ↔ Refuses f v e := by
  refine ⟨fun failed => ?_, accepted_of_refuses⟩
  rcases accepts_or_refuses f v with ⟨w, accepts⟩ | ⟨other, refuses⟩
  · rw [accepted_of_accepts accepts] at failed
    cases failed
  · rw [accepted_of_refuses refuses] at failed
    cases failed
    exact refuses

theorem set_eq_ok_iff (f : Field) (v : Value) (b : Builder) : (set f v b).result = .ok () ↔ ∃ w, Accepts f v w := by
  simp only [← accepted_eq_ok_iff, set_eq]
  cases accepted f v <;> simp

theorem set_eq_error_iff (f : Field) (v : Value) (b : Builder) (e : Failure) :
    (set f v b).result = .error e ↔ Refuses f v e := by
  rw [← accepted_eq_error_iff, set_eq]
  cases accepted f v <;> simp

/-! Runs, field by field. -/

def Call.given? (f : Field) : Call → Option Value
  | .set g v => if g = f then some v else none
  | .build => none

def values (f : Field) (calls : List Call) : List Value := calls.filterMap (Call.given? f)

def replace (f : Field) (held v : Value) : Value :=
  match accepted f v with
  | .ok w => w
  | .error _ => held

theorem replace_of_accepts {f : Field} {v w : Value} (accepts : Accepts f v w) (held : Value) :
    replace f held v = w := by
  rw [replace, accepted_eq_ok_iff.2 accepts]

theorem replace_of_not_accepts {f : Field} {v : Value} (refused : ∀ w, ¬ Accepts f v w) (held : Value) :
    replace f held v = held := by
  cases stored : accepted f v with
  | ok w => exact absurd (accepted_eq_ok_iff.1 stored) (refused w)
  | error e => rw [replace, stored]

theorem Call.after_set (f : Field) (v : Value) (b : Builder) : (Call.set f v).after b = (Builder.set f v b).state := by
  rw [after, perform, Action.bind_eq, Action.andThen]
  cases (Builder.set f v b).result <;> rfl

/-- A call touches a field only if it gives a value for it. -/
theorem get_after (c : Call) (b : Builder) (f : Field) :
    (c.after b).fields.get f = (c.given? f).elim (b.fields.get f) (replace f (b.fields.get f)) := by
  cases c with
  | set g v =>
    rw [Call.after_set, set_eq, Call.given?]
    by_cases same : g = f
    · subst same
      rw [if_pos rfl, Option.elim_some, replace]
      cases accepted g v with
      | ok w => simp [store]
      | error e => rfl
    · rw [if_neg same, Option.elim_none]
      cases accepted g v with
      | ok w => simp [store, Ne.symm same]
      | error e => rfl
  | build =>
    rw [Call.after_build, build_eq]
    cases b.latest with
    | some built => rfl
    | none => cases b.lease <;> rfl

theorem get_run (calls : List Call) (b : Builder) (f : Field) :
    (run calls b).fields.get f = (values f calls).foldl (replace f) (b.fields.get f) := by
  induction calls generalizing b with
  | nil => rfl
  | cons c rest ih =>
    rw [run, ih, get_after, values, values, List.filterMap_cons]
    cases c.given? f <;> rfl

/-- What a field holds after values were given for it: the last one accepted, or what it held at
first. -/
inductive Holds (f : Field) (first : Int) : List Value → Value → Prop where
  | first {vs : List Value} : (∀ v ∈ vs, ∀ w, ¬ Accepts f v w) → Holds f first vs (.int first)
  | last {before after : List Value} {v w : Value} : Accepts f v w →
      (∀ later ∈ after, ∀ w, ¬ Accepts f later w) → Holds f first (before ++ v :: after) w

theorem foldl_of_not_accepts {f : Field} {vs : List Value} (refused : ∀ v ∈ vs, ∀ w, ¬ Accepts f v w) (held : Value) :
    vs.foldl (replace f) held = held := by
  induction vs with
  | nil => rfl
  | cons v rest ih =>
    obtain ⟨here, later⟩ := List.forall_mem_cons.1 refused
    rw [List.foldl_cons, replace_of_not_accepts here, ih later]

theorem holds_foldl (f : Field) (first : Int) (vs : List Value) :
    Holds f first vs (vs.foldl (replace f) (.int first)) := by
  induction vs using List.reverseRecOn with
  | nil => exact .first (by simp)
  | append_singleton vs v ih =>
    rw [List.foldl_append, List.foldl_cons, List.foldl_nil]
    by_cases accepts : ∃ w, Accepts f v w
    · obtain ⟨w, stored⟩ := accepts
      rw [replace_of_accepts stored]
      exact .last stored (by simp)
    · have refused : ∀ w, ¬ Accepts f v w := not_exists.1 accepts
      rw [replace_of_not_accepts refused]
      generalize vs.foldl (replace f) (.int first) = held at ih
      cases ih with
      | first none => exact .first (List.forall_mem_append.2 ⟨none, List.forall_mem_singleton.2 refused⟩)
      | @last before after u _ stored none =>
        rw [List.append_assoc, List.cons_append]
        exact .last stored (List.forall_mem_append.2 ⟨none, List.forall_mem_singleton.2 refused⟩)

theorem holds_iff {f : Field} {first : Int} {vs : List Value} {v : Value} :
    Holds f first vs v ↔ v = vs.foldl (replace f) (.int first) := by
  constructor
  · intro holds
    cases holds with
    | first none => exact (foldl_of_not_accepts none _).symm
    | last stored none =>
      rw [List.foldl_append, List.foldl_cons, replace_of_accepts stored, foldl_of_not_accepts none]
  · rintro rfl
    exact holds_foldl f first vs

/-- A builder made from a lease holds the last value accepted, field by field. -/
theorem holds_run (l : Lease) (calls : List Call) (f : Field) (v : Value) :
    Holds f (l.get f) (values f calls) v ↔ v = (run calls (ofLease l)).fields.get f := by
  have start : (ofLease l).fields.get f = .int (l.get f) := Fields.get_map _ l f
  rw [holds_iff, get_run, start]

/-! The lease after a run. -/

def outcome (calls : List Call) (b : Builder) : Except Failure Lease := (build (run calls b)).result.map Built.lease

theorem run_coherent {b : Builder} (coherent : Coherent b) (calls : List Call) : Coherent (run calls b) := by
  induction calls generalizing b with
  | nil => exact coherent
  | cons c rest ih => exact ih (after_coherent coherent c)

/-- Builds on the way do not matter, the values do. -/
theorem outcome_eq (calls : List Call) (l : Lease) :
    outcome calls (ofLease l) = Lease.ofValues Coercion.integer Field.label (run calls (ofLease l)).fields :=
  build_result (run_coherent (coherent_of_empty rfl) calls)

theorem outcome_error_iff {calls : List Call} {l : Lease} :
    (∃ e, outcome calls (ofLease l) = .error e) ↔
      ∃ f v, Holds f (l.get f) (values f calls) v ∧ ∀ n, ¬ StandsFor v n := by
  rw [outcome_eq, Lease.ofValues_refused_iff]
  simp only [holds_run, exists_eq_left, Coercion.integer_eq_ok_iff, ne_eq]

/-- Whatever was set in whatever order, a build succeeds exactly if for every field the last value
that its setter accepted stands for an integer, and gives those integers; a field without such a
value is as it was at first. So two runs that give every field the same values build the same,
and a lease that nothing is done to is built as it is, positive or not. -/
theorem last_accepted_counts (l : Lease) (calls : List Call) :
    fresh = ofLease ⟨30, 90, 0, 0, 0, 0⟩ ∧
    (∀ f v b, (set f v b).result = .ok () ↔ ∃ w, Accepts f v w) ∧
    (∀ f v b e, (set f v b).result = .error e ↔ Refuses f v e) ∧
    (∀ made, outcome calls (ofLease l) = .ok made ↔
      ∀ f, ∃ v, Holds f (l.get f) (values f calls) v ∧ StandsFor v (made.get f)) ∧
    ((∃ e, outcome calls (ofLease l) = .error e) ↔
      ∃ f v, Holds f (l.get f) (values f calls) v ∧ ∀ n, ¬ StandsFor v n) ∧
    (∀ other, (∀ f, values f other = values f calls) → outcome other (ofLease l) = outcome calls (ofLease l)) ∧
    outcome [] (ofLease l) = .ok l := by
  refine ⟨fresh_eq, set_eq_ok_iff, set_eq_error_iff, fun made => ?_, outcome_error_iff, fun other same => ?_, ?_⟩
  · rw [outcome_eq, Lease.ofValues_eq_ok_iff]
    simp only [holds_run, exists_eq_left, Coercion.integer_eq_ok_iff]
  · have fields : (run other (ofLease l)).fields = (run calls (ofLease l)).fields := by
      refine Fields.ext_get fun f => ?_
      rw [get_run, get_run, same]
    rw [outcome_eq, outcome_eq, fields]
  · rw [outcome_eq]
    exact Lease.ofValues_ints Field.label l

example : outcome [.set .duration (.int (-1)), .set .eviction (.text "soon"), .build, .set .duration (.text "60"),
    .set .eviction (.text " 7 ")] (ofLease ⟨-5, 60, 1, 2, 3, 4⟩) = .ok ⟨-5, 90, 1, 2, 7, 4⟩ := by
  rfl

end ServiceLease.Builder
