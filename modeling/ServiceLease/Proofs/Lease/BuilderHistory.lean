import ServiceLease.Proofs.Lease.Builder

/-! Runs of calls on one builder. Whatever is set, in whatever order and with builds at any
point, the settings of a built lease are positive. -/
namespace ServiceLease.Builder

inductive Call where
  | set (field : Field) (value : Value)
  | build

namespace Call

def perform : Call → Action Builder (Option Built)
  | .set f v => do
    Builder.set f v
    return none
  | .build => do return some (← Builder.build)

def after (c : Call) (b : Builder) : Builder := (c.perform b).state

def built? (c : Call) (b : Builder) : Option Built :=
  match (c.perform b).result with
  | .ok built => built
  | .error _ => none

end Call

def builds : List Call → Builder → List Built
  | [], _ => []
  | c :: rest, b => (c.built? b).toList ++ builds rest (c.after b)

/-- All that a call can do: it stores a value, gives the latest lease again, gives a new one,
or fails and leaves the builder alone. -/
theorem Call.perform_cases (c : Call) (b : Builder) :
    (∃ f v w, c = .set f v ∧ accepted f v = .ok w ∧ c.perform b = ⟨.ok none, store f w b, notices f v⟩) ∨
    (∃ built, c = .build ∧ b.latest = some built ∧ c.perform b = ⟨.ok (some built), b, []⟩) ∨
    (∃ l, c = .build ∧ b.latest = none ∧ b.lease = .ok l ∧
      c.perform b = ⟨.ok (some ⟨b.count, l⟩), keep l b, []⟩) ∨
    ∃ e, c.perform b = ⟨.error e, b, []⟩ := by
  cases c with
  | set f v =>
    have call := set_eq f v b
    cases stored : accepted f v with
    | ok w =>
      rw [stored] at call
      refine .inl ⟨f, v, w, rfl, stored, ?_⟩
      rw [perform, Action.bind_eq, Action.andThen, call]
      exact congrArg (Report.mk _ _) (List.append_nil _)
    | error e =>
      rw [stored] at call
      exact .inr (.inr (.inr ⟨e, Action.bind_of_error _ b call⟩))
  | build =>
    have call := build_eq b
    cases held : b.latest with
    | some built =>
      rw [held] at call
      exact .inr (.inl ⟨built, rfl, rfl, Action.bind_of_ok _ b call⟩)
    | none =>
      cases made : b.lease with
      | ok l =>
        rw [held, made] at call
        exact .inr (.inr (.inl ⟨l, rfl, rfl, rfl, Action.bind_of_ok _ b call⟩))
      | error e =>
        rw [held, made] at call
        exact .inr (.inr (.inr ⟨e, Action.bind_of_error _ b call⟩))

/-! The settings. -/

def SettingsPositive (l : Lease) : Prop := ∀ f : Field, f.standard?.isSome → 1 ≤ l.get f

/-- What is stored for a setting stands for nothing below one, whether or not it stands for
an integer at all, and the latest lease is kept from such values. -/
structure Sound (b : Builder) : Prop where
  stored : ∀ (f : Field) (n : Int), f.standard?.isSome → Coercion.integer (b.fields.get f) = .ok n → 1 ≤ n
  latest : ∀ built, b.latest = some built → SettingsPositive built.lease

theorem fresh_sound : Sound fresh where
  stored := by
    intro f n setting whole
    rw [fresh, ofFields, Fields.get_map] at whole
    cases whole
    cases f <;> first | decide | cases setting
  latest := by
    intro built held
    cases held

theorem store_sound {b : Builder} (sound : Sound b) {f : Field} {v w : Value} (stored : accepted f v = .ok w) :
    Sound (store f w b) where
  stored := by
    intro g n setting whole
    rw [store, Fields.get_set] at whole
    split at whole
    · next same =>
      subst same
      exact one_le_of_accepted setting stored whole
    · exact sound.stored g n setting whole
  latest := by
    intro built held
    cases held

/-- A new lease is made of what is stored. -/
theorem lease_positive {b : Builder} (sound : Sound b) {l : Lease} (made : b.lease = .ok l) : SettingsPositive l :=
  fun f setting => sound.stored f (l.get f) setting (Lease.integer_of_ofValues made f)

theorem keep_sound {b : Builder} (sound : Sound b) {l : Lease} (made : b.lease = .ok l) : Sound (keep l b) where
  stored := sound.stored
  latest := by
    intro built held
    cases held
    exact lease_positive sound made

/-- No call makes a builder unsound. -/
theorem after_sound {b : Builder} (sound : Sound b) (c : Call) : Sound (c.after b) := by
  unfold Call.after
  rcases c.perform_cases b with ⟨f, v, w, -, stored, done⟩ | ⟨built, -, -, done⟩ | ⟨l, -, -, made, done⟩ | ⟨e, done⟩
  · rw [done]
    exact store_sound sound stored
  · rwa [done]
  · rw [done]
    exact keep_sound sound made
  · rwa [done]

/-- A sound builder gives out only leases with positive settings. -/
theorem built_positive {b : Builder} (sound : Sound b) {c : Call} {built : Built}
    (given : c.built? b = some built) : SettingsPositive built.lease := by
  unfold Call.built? at given
  rcases c.perform_cases b with ⟨f, v, w, -, -, done⟩ | ⟨same, -, held, done⟩ | ⟨l, -, -, made, done⟩ | ⟨e, done⟩
  · rw [done] at given
    cases given
  · rw [done] at given
    cases given
    exact sound.latest built held
  · rw [done] at given
    cases given
    exact lease_positive sound made
  · rw [done] at given
    cases given

theorem builds_positive {b : Builder} (sound : Sound b) (calls : List Call) :
    ∀ built ∈ builds calls b, SettingsPositive built.lease := by
  induction calls generalizing b with
  | nil => simp [builds]
  | cons c rest ih =>
    intro built member
    rcases List.mem_append.1 member with here | later
    · exact built_positive sound (Option.mem_toList.1 here)
    · exact ih (after_sound sound c) built later

/-- Every lease that a builder ever gives out has positive settings, if it started with
the initial values. -/
theorem built_settings_positive (calls : List Call) :
    ∀ built ∈ builds calls fresh, 1 ≤ built.lease.renewalInterval ∧ 1 ≤ built.lease.duration := by
  intro built member
  have positive := builds_positive fresh_sound calls built member
  exact ⟨positive .renewalInterval rfl, positive .duration rfl⟩

def stubborn : List Call :=
  [.set .duration (.float .nan), .build, .set .renewalInterval (.text "5"), .set .duration (.float (.ofDecimal false 5 (-1))),
    .build, .set .renewalInterval (.bool true), .set .duration (.float (.ofDecimal false 2 0)), .build,
    .set .duration (.int (-1)), .set .renewalInterval .null, .build]

theorem built_settings_positive_stubborn :
    let second : Built := ⟨1, ⟨30, 90, 0, 0, 0, 0⟩⟩
    second ∈ builds stubborn fresh ∧ 1 ≤ second.lease.renewalInterval ∧ 1 ≤ second.lease.duration := by
  have member : ⟨1, ⟨30, 90, 0, 0, 0, 0⟩⟩ ∈ builds stubborn fresh := by decide +kernel
  exact ⟨member, built_settings_positive stubborn _ member⟩

end ServiceLease.Builder
