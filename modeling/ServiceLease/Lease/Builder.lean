import ServiceLease.Action
import ServiceLease.Lease.Checked

/-! Builders: values for the six fields, set one at a time and checked together when
the lease is built. A built lease is given out again until a value is stored. -/
namespace ServiceLease

/-- A lease with its number among those that one builder has made. -/
structure Built where
  number : Nat
  lease : Lease
  deriving DecidableEq, Repr

structure Builder where
  fields : Fields Value
  latest : Option Built
  count : Nat

namespace Builder

def ofFields (x : Fields Value) : Builder := ⟨x, none, 0⟩

def fresh : Builder := ofFields (Lease.initial.map .int)

def ofLease (l : Lease) : Builder := ofFields (l.map .int)

def store (f : Field) (v : Value) (b : Builder) : Builder :=
  { b with fields := b.fields.set f v, latest := none }

/-- Whether a setting has to be replaced. Only numbers and null can be compared. -/
def unusable : Value → Except Failure Bool
  | .null => .ok true
  | .bool b => .ok !b
  | .int n => .ok (n ≤ 0)
  | .float x => .ok x.notPositive
  | .text _ => .error (.incomparable .text)
  | .broken _ => .error (.incomparable .text)
  | .list _ => .error (.incomparable .list)
  | .object _ => .error (.incomparable .object)

/-- Sets a field. Timestamps are stored as given; a setting that is null or not
positive gives way to its standard value, with a notice. -/
def set (f : Field) (v : Value) : Action Builder Unit :=
  match f.standard? with
  | none => .update (store f v)
  | some standard => do
    if ← .ofExcept (unusable v) then
      .note (.settingReplaced f v standard)
      .update (store f (.int standard))
    else
      .update (store f v)

def lease (b : Builder) : Except Failure Lease := Lease.ofValues Coercion.integer Field.label b.fields

def keep (l : Lease) (b : Builder) : Builder :=
  { b with latest := some ⟨b.count, l⟩, count := b.count + 1 }

def build : Action Builder Built := do
  let b ← Action.state
  match b.latest with
  | some built => return built
  | none =>
    let l ← .ofExcept b.lease
    .update (keep l)
    return ⟨b.count, l⟩

end Builder

end ServiceLease
