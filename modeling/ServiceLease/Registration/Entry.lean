import ServiceLease.Lease.Builder
import ServiceLease.Registration.Clock

/-! What a registry holds for a registered instance: its current lease. Every change of
state puts a new lease in its place; a lease is never changed itself. -/
namespace ServiceLease

structure Entry where
  current : Lease
  deriving DecidableEq, Repr

namespace Entry

def advance (l : Lease) (t : Transition) (ts : Value) : Logged Lease :=
  .within (Builder.ofLease l) do
    Builder.set t.field ts
    return (← Builder.build).lease

/-- Records a transition at a time, or now if that is null. The new lease is in place
before the notice is given. -/
def record (clock : Clock) (t : Transition) (ts : Value) : Action Entry Lease := do
  let ts ← .ofExcept (clock.orNow ts)
  let entry ← Action.state
  let l ← .within () (advance entry.current t ts)
  .update fun _ => ⟨l⟩
  .note (.leaseReplaced t ts)
  return l

end Entry

end ServiceLease
