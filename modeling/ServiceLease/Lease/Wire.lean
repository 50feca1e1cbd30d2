import ServiceLease.Json.Printer
import ServiceLease.Json.Reader
import ServiceLease.Lease.Checked

/-! Leases as objects of named values and as JSON. A reader accepts an older name of
the last renewal and takes what is missing for zero; a writer uses the six names. -/
namespace ServiceLease.Lease

def rootName : String := "leaseInfo"

/-- The name of the last renewal in older wire forms. -/
def legacyName : String := "renewalTimestamp"

/-- The members that describe the lease: those of the object under the root name, if
there is one. Only one such object is opened. -/
def unwrap (given : Members) : Members :=
  match given.lookup rootName with
  | some (.object inner) => inner
  | _ => given

/-- The value given for a field. The older name counts only if the last renewal is
absent or null. -/
def wireValue? (given : Members) (f : Field) : Option Value :=
  match given.find? f.wireName with
  | some v => some v
  | none => if f = .lastRenewal then given.find? legacyName else none

/-- The six values that are read, zero for what is absent or null. -/
def effective (given : Members) : Fields Value :=
  .ofFn fun f => (wireValue? (unwrap given) f).getD (.int 0)

def ofMembersIn (minusCounts : Bool) (given : Members) : Except Failure Lease :=
  ofValues (Coercion.integerIn minusCounts) Field.label (effective given)

def ofValueIn (minusCounts : Bool) : Value → Except Failure Lease
  | .object given => ofMembersIn minusCounts given
  | v => .error (.notAnObject v.kind)

/-- Reads a lease on a stack with so many levels left for the values of the text. -/
def ofJsonIn (levels : Nat) (minusCounts : Bool) (text : String) : Except Failure Lease :=
  match Json.readIn levels text with
  | .ok v => ofValueIn minusCounts v
  | .error e => .error (.json e)

def ofMembers (given : Members) : Except Failure Lease := ofMembersIn false given

def ofValue (v : Value) : Except Failure Lease := ofValueIn false v

def ofJson (text : String) : Except Failure Lease := ofJsonIn Json.outermost false text

theorem ofMembers_eq (given : Members) :
    ofMembers given = ofValues Coercion.integer Field.label (effective given) := rfl

theorem ofValue_object (given : Members) : ofValue (.object given) = ofMembers given := rfl

def members (l : Lease) : Members := l.entries.map fun (f, n) => (f.wireName, .int n)

def toValue (wrapped : Bool) (l : Lease) : Value :=
  if wrapped then .object [(rootName, .object l.members)] else .object l.members

def toJson (wrapped : Bool) (l : Lease) : Except Failure String :=
  match Json.render? (l.toValue wrapped) with
  | some text => .ok text
  | none => .error .integerUnwritable

end ServiceLease.Lease
