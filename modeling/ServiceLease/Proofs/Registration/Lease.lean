import ServiceLease.Proofs.Lease.Builder
import ServiceLease.Proofs.Service.Config
import ServiceLease.Registration.Lease

/-! The first lease of an instance. It is built from integers only, so that no setter and no
build fails as long as the settings have a text. -/
namespace ServiceLease

/-- The value of a setting in a new lease: the given one if it is positive. -/
def Field.inForce (f : Field) : Option Int → Int
  | some n => if 0 < n then n else f.initial
  | none => f.initial

theorem Field.inForce_of_ne {f : Field} {standard : Int} (known : f.standard? = some standard) {given : Option Int}
    (replaced : given ≠ some (f.inForce given)) : f.inForce given = standard := by
  have initial : f.initial = standard := by rw [Field.initial, known]; rfl
  cases given with
  | none => exact initial
  | some n =>
    by_cases positive : 0 < n
    · rw [Field.inForce, if_pos positive] at replaced
      exact absurd rfl replaced
    · rw [Field.inForce, if_neg positive, initial]

/-- A setting is unusable exactly if another value is in force in its place. -/
theorem Builder.unusable_optional {f : Field} (setting : f.standard?.isSome) (given : Option Int) :
    unusable (Settings.optional given) = .ok (decide (given ≠ some (f.inForce given))) := by
  obtain ⟨standard, known⟩ := Option.isSome_iff_exists.1 setting
  cases given with
  | none => rfl
  | some n =>
    have large := Field.one_le_standard known
    have initial : f.initial = standard := by rw [Field.initial, known]; rfl
    have same : n ≤ 0 ↔ some n ≠ some (f.inForce (some n)) := by
      rw [ne_eq, Option.some.injEq, Field.inForce, initial]
      split <;> omega
    rw [Settings.optional, unusable, decide_eq_decide.2 same]

/-- What stands for a setting in a notice has a text. -/
theorem Settings.display?_optional {given : Option Int} (written : ∀ n, given = some n → Decimal.fits n = true) :
    (optional given).display?.isSome = true := by
  cases given with
  | none => rfl
  | some n => rw [optional, Value.display?, if_pos (written n rfl), Option.isSome_some]

/-- A setting that has a text is stored or replaced. -/
theorem Builder.accepted_optional {f : Field} {given : Option Int} (setting : f.standard?.isSome)
    (written : ∀ n, given = some n → Decimal.fits n = true) :
    accepted f (Settings.optional given) = .ok (.int (f.inForce given)) := by
  obtain ⟨standard, known⟩ := Option.isSome_iff_exists.1 setting
  unfold accepted
  rw [known, unusable_optional setting]
  by_cases same : given = some (f.inForce given)
  · have kept : Settings.optional given = .int (f.inForce given) := congrArg Settings.optional same
    rw [decide_eq_false (not_not_intro same), kept]
  · have replaced := Field.inForce_of_ne known same
    rw [decide_eq_true same, replaced]
    exact if_pos (Settings.display?_optional written)

/-- There is a notice of a setting exactly if it was replaced. -/
theorem Builder.notices_optional {f : Field} (setting : f.standard?.isSome) (given : Option Int) :
    notices f (Settings.optional given) =
      if given ≠ some (f.inForce given) then [.settingReplaced f (Settings.optional given) (f.inForce given)] else [] := by
  obtain ⟨standard, known⟩ := Option.isSome_iff_exists.1 setting
  unfold notices
  rw [known, unusable_optional setting]
  by_cases same : given = some (f.inForce given)
  · rw [decide_eq_false (not_not_intro same), if_neg (not_not_intro same)]
  · have replaced := Field.inForce_of_ne known same
    rw [decide_eq_true same, if_pos same, replaced]

namespace Registration

def firstLease (settings : Settings) (now : Int) : Lease where
  renewalInterval := Field.renewalInterval.inForce settings.renewalInterval
  duration := Field.duration.inForce settings.duration
  registration := now
  lastRenewal := now
  eviction := 0
  serviceUp := now

theorem lease_eq {service : Service} (written : service.settings.Writable) (clock : Clock) (now : Int) :
    lease service clock (.int now) () =
      ⟨.ok (firstLease service.settings now), (),
        Builder.notices .renewalInterval (Settings.optional service.settings.renewalInterval) ++
          Builder.notices .duration (Settings.optional service.settings.duration)⟩ := by
  have first := Builder.accepted_optional (f := .renewalInterval) rfl written.renewalInterval
  have second := Builder.accepted_optional (f := .duration) rfl written.duration
  have time : clock.orNow (.int now) = .ok (.int now) := rfl
  unfold lease
  rw [time, Action.ofExcept_ok_bind, Builder.fresh_eq]
  simp only [Action.within, Action.bind_eq, Action.andThen, Builder.set_ofLease first, Builder.set_ofLease second,
    Builder.set_timestamp (f := .registration) rfl, Builder.set_timestamp (f := .lastRenewal) rfl,
    Builder.set_timestamp (f := .serviceUp) rfl, Builder.build_ofLease, Action.pure_eq, List.append_nil]
  rfl

end Registration

end ServiceLease
