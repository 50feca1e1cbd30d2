import ServiceLease.Coercion
import ServiceLease.Failure
import ServiceLease.Lease.Basic

/-! Leases from unchecked values. Each field is checked by itself, and every field that
fails is reported. -/
namespace ServiceLease.Lease

/-- The lease of six values; `name` is how complaints call a field. -/
def check (integer : Value → Except Complaint Int) (name : Field → String) (x : Fields Value) : Checked Lease :=
  let one (f : Field) : Checked Int := .named (name f) (integer (x.get f))
  Fields.mk <$> one .renewalInterval <*> one .duration <*> one .registration <*> one .lastRenewal <*>
    one .eviction <*> one .serviceUp

def ofValues (integer : Value → Except Complaint Int) (name : Field → String) (x : Fields Value) :
    Except Failure Lease :=
  match check integer name x with
  | .valid l => .ok l
  | .invalid issues => .error (.rejected .lease issues)

/-- The lease given by keywords. A field may be given under its wire name or under its
label; the wire name goes before. -/
def ofKeywords (given : Members) : Except Failure Lease :=
  let name (f : Field) : String := if (given.lookup f.wireName).isSome then f.wireName else f.label
  ofValues Coercion.integer name (.ofFn fun f => (given.lookup (name f)).getD (.int f.initial))

def changeRefusal (name : String) : Failure := .rejected .lease [⟨[name], .frozen⟩]

end ServiceLease.Lease
