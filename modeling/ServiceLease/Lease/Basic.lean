/-! Leases that a registry keeps for a service instance: six integers under fixed
names, two of them settings of the client and four of them timestamps in
milliseconds. -/
namespace ServiceLease

inductive Field where
  | renewalInterval
  | duration
  | registration
  | lastRenewal
  | eviction
  | serviceUp
  deriving DecidableEq, Repr

namespace Field

/-- The fields in the order in which they are checked and written. -/
def all : List Field := [.renewalInterval, .duration, .registration, .lastRenewal, .eviction, .serviceUp]

def wireName : Field → String
  | .renewalInterval => "renewalIntervalInSecs"
  | .duration => "durationInSecs"
  | .registration => "registrationTimestamp"
  | .lastRenewal => "lastRenewalTimestamp"
  | .eviction => "evictionTimestamp"
  | .serviceUp => "serviceUpTimestamp"

def label : Field → String
  | .renewalInterval => "renewal_interval_in_secs"
  | .duration => "duration_in_secs"
  | .registration => "registration_timestamp"
  | .lastRenewal => "last_renewal_timestamp"
  | .eviction => "eviction_timestamp"
  | .serviceUp => "service_up_timestamp"

/-- What stands in for a setting that is missing or not positive. Timestamps have no
such value. -/
def standard? : Field → Option Int
  | .renewalInterval => some 30
  | .duration => some 90
  | _ => none

def initial (f : Field) : Int := f.standard?.getD 0

theorem mem_all (f : Field) : f ∈ all := by cases f <;> simp [all]

end Field

structure Fields (α : Type) where
  renewalInterval : α
  duration : α
  registration : α
  lastRenewal : α
  eviction : α
  serviceUp : α
  deriving DecidableEq, Repr

namespace Fields

def get (x : Fields α) : Field → α
  | .renewalInterval => x.renewalInterval
  | .duration => x.duration
  | .registration => x.registration
  | .lastRenewal => x.lastRenewal
  | .eviction => x.eviction
  | .serviceUp => x.serviceUp

def ofFn (g : Field → α) : Fields α :=
  ⟨g .renewalInterval, g .duration, g .registration, g .lastRenewal, g .eviction, g .serviceUp⟩

def set (x : Fields α) (f : Field) (a : α) : Fields α := ofFn fun g => if g = f then a else x.get g

def map (h : α → β) (x : Fields α) : Fields β := ofFn fun f => h (x.get f)

def entries (x : Fields α) : List (Field × α) := Field.all.map fun f => (f, x.get f)

@[simp] theorem get_ofFn (g : Field → α) (f : Field) : (ofFn g).get f = g f := by cases f <;> rfl

@[simp] theorem get_map (h : α → β) (x : Fields α) (f : Field) : (x.map h).get f = h (x.get f) :=
  get_ofFn _ f

@[simp] theorem get_set (x : Fields α) (f g : Field) (a : α) :
    (x.set f a).get g = if g = f then a else x.get g :=
  get_ofFn _ g

theorem ext_get {x y : Fields α} (h : ∀ f, x.get f = y.get f) : x = y := by
  cases x; cases y
  have a := h .renewalInterval
  have b := h .duration
  have c := h .registration
  have d := h .lastRenewal
  have e := h .eviction
  have f := h .serviceUp
  simp_all [get]

end Fields

abbrev Lease := Fields Int

def Lease.initial : Lease := .ofFn Field.initial

inductive Transition where
  | renew
  | markUp
  | evict
  deriving DecidableEq, Repr

def Transition.field : Transition → Field
  | .renew => .lastRenewal
  | .markUp => .serviceUp
  | .evict => .eviction

def Transition.spelling : Transition → String
  | .renew => "set_renewal_timestamp"
  | .markUp => "set_service_up_timestamp"
  | .evict => "set_eviction_timestamp"

end ServiceLease
