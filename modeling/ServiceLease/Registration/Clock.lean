import ServiceLease.Failure
import ServiceLease.Number.Binary64

/-! Reading the time. -/
namespace ServiceLease

/-- Seconds since the epoch. -/
inductive Clock where
  | whole (seconds : Int)
  | real (seconds : Binary64)
  deriving DecidableEq, Repr

/-- Milliseconds since the epoch, cut at the point; the product of a real time is rounded
before. -/
def Clock.millis : Clock → Except Failure Int
  | .whole seconds => .ok (seconds * 1000)
  | .real seconds =>
    match seconds.scaleBy 1000 with
    | .nan => .error .clockNotANumber
    | .infinity _ => .error .clockInfinite
    | .finite negative m scale => .ok (Binary64.whole negative m scale).1

def Clock.orNow (clock : Clock) : Value → Except Failure Value
  | .null => clock.millis.map .int
  | v => .ok v

end ServiceLease
