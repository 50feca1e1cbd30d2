import ServiceLease.Lease.Builder
import ServiceLease.Registration.Clock
import ServiceLease.Service.Config

/-! The lease of an instance that registers now. -/
namespace ServiceLease.Registration

/-- The lease with the settings of a service. The time, now if it is null, becomes that
of the registration, of the last renewal and of going up. -/
def lease (service : Service) (clock : Clock) (time : Value) : Logged Lease := do
  let time ← .ofExcept (clock.orNow time)
  .within Builder.fresh do
    Builder.set .renewalInterval (Settings.optional service.settings.renewalInterval)
    Builder.set .duration (Settings.optional service.settings.duration)
    Builder.set .registration time
    Builder.set .lastRenewal time
    Builder.set .serviceUp time
    return (← Builder.build).lease

end ServiceLease.Registration
