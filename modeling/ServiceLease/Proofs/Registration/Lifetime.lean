import ServiceLease.Proofs.Registration.History
import ServiceLease.Proofs.Registration.Lease

/-! The settings of a registered instance. They are made usable once, when it registers, and no
record of a transition touches them again. -/
namespace ServiceLease

def Settings.given (s : Settings) : Field → Option Int
  | .renewalInterval => s.renewalInterval
  | .duration => s.duration
  | _ => none

theorem Settings.fits_given {s : Settings} (written : s.Writable) (f : Field) :
    ∀ n, s.given f = some n → Decimal.fits n = true := by
  intro n same
  cases f with
  | renewalInterval => exact written.renewalInterval n same
  | duration => exact written.duration n same
  | _ => cases same

namespace Registration

/-- A notice for each setting that is not in a lease as it was given, the interval first. -/
def replacements (s : Settings) (l : Lease) : List Notice :=
  ([.renewalInterval, .duration].filter fun f => s.given f ≠ some (l.get f)).map fun f =>
    .settingReplaced f (Settings.optional (s.given f)) (l.get f)

theorem notices_firstLease (s : Settings) (now : Int) :
    Builder.notices .renewalInterval (Settings.optional s.renewalInterval) ++
      Builder.notices .duration (Settings.optional s.duration) = replacements s (firstLease s now) := by
  have interval : (firstLease s now).get .renewalInterval = Field.renewalInterval.inForce s.renewalInterval := rfl
  have duration : (firstLease s now).get .duration = Field.duration.inForce s.duration := rfl
  rw [Builder.notices_optional rfl, Builder.notices_optional rfl, ← interval, ← duration]
  generalize firstLease s now = l
  by_cases first : s.renewalInterval = some (l.get .renewalInterval) <;>
    by_cases second : s.duration = some (l.get .duration) <;>
    simp [replacements, Settings.given, first, second]

/-- A setting that was replaced can be reported, in a line that only shows when asked for. -/
theorem replacements_written {s : Settings} (written : s.Writable) (l : Lease) :
    ∀ notice ∈ replacements s l, notice.severity = .debug ∧ notice.text?.isSome = true := by
  intro notice member
  obtain ⟨f, -, rfl⟩ := List.mem_map.1 member
  refine ⟨rfl, ?_⟩
  rw [Notice.text?, Option.isSome_map]
  exact Settings.display?_optional (Settings.fits_given written f)

/-- An instance registers with the settings of its service where they are positive and with the
standard ones elsewhere, and keeps them and the time of its registration over any run of calls,
whether or not they fail. Exactly the settings that were replaced are reported, once. -/
theorem registered_settings_kept (service : Service) (written : service.settings.Writable) (clock : Clock) (now : Int) :
    ∃ l notices, lease service clock (.int now) () = ⟨.ok l, (), notices⟩ ∧
      (∀ calls : List Entry.Call,
        let current := (Entry.run calls ⟨l⟩).current
        current.registration = now ∧
        current.renewalInterval = (match service.settings.renewalInterval with
          | some n => if 0 < n then n else 30
          | none => 30) ∧
        current.duration = (match service.settings.duration with
          | some n => if 0 < n then n else 90
          | none => 90)) ∧
      notices = replacements service.settings l ∧
      ∀ notice ∈ notices, notice.severity = .debug ∧ notice.text?.isSome = true := by
  have first := lease_eq written clock now
  rw [notices_firstLease service.settings now] at first
  refine ⟨_, _, first, ?_, rfl, replacements_written written _⟩
  intro calls
  have kept (f : Field) (apart : ∀ t : Transition, f ≠ t.field) :=
    Entry.get_run_other apart calls ⟨firstLease service.settings now⟩
  refine ⟨?_, ?_, ?_⟩
  · exact kept .registration (by intro t; cases t <;> decide)
  · exact kept .renewalInterval (by intro t; cases t <;> decide)
  · exact kept .duration (by intro t; cases t <;> decide)

def hasty : Service where
  name := "hasty"
  healthPath := "/health"
  infoPath := "/info"
  port := 8080
  securePort := 8443
  host := "localhost"
  dataCenter := "MyOwn"
  securePreferred := false
  settings := ⟨some 1, some (-1)⟩

theorem registered_settings_kept_hasty :
    let calls : List Entry.Call :=
      [⟨.renew, .whole 6, .list []⟩, ⟨.evict, .whole 6, .null⟩, ⟨.markUp, .whole 6, .text "7"⟩]
    hasty.settings.Writable ∧
    ∃ l, lease hasty (.whole 0) (.int 5) () = ⟨.ok l, (), [.settingReplaced .duration (.int (-1)) 90]⟩ ∧
      let current := (Entry.run calls ⟨l⟩).current
      current.registration = 5 ∧ current.renewalInterval = 1 ∧ current.duration = 90 := by
  intro calls
  have written : hasty.settings.Writable := by
    constructor
    · rintro n ⟨⟩
      decide
    · rintro n ⟨⟩
      decide
  obtain ⟨l, notices, done, life, logged, -⟩ := registered_settings_kept hasty written (.whole 0) 5
  obtain ⟨-, interval, duration⟩ := life []
  have replaced : replacements hasty.settings l = [.settingReplaced .duration (.int (-1)) 90] := by
    have interval : l.get .renewalInterval = 1 := interval
    have duration : l.get .duration = 90 := duration
    simp [replacements, Settings.given, Settings.optional, hasty, interval, duration]
  rw [logged, replaced] at done
  exact ⟨written, l, done, life calls⟩

end Registration

end ServiceLease
