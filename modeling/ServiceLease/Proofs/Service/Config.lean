import ServiceLease.Proofs.Coercion
import ServiceLease.Proofs.Json.Limit
import ServiceLease.Proofs.Lease.Checked
import ServiceLease.Service.Config

/-! Services from unchecked values. Each member is accepted by itself; an integer of a
service comes from a value or is a standard one, so it has a text if those of the value do. -/
namespace ServiceLease

/-- A member that is accepted passes its test, or is absent and has a value of its own. -/
theorem Members.checked_eq_valid_iff {α : Type} {given : Members} {name : String} {absent : Option α}
    {test : Value → Except Complaint α} {a : α} :
    given.checked name absent test = .valid a ↔
      (∃ v, given.lookup name = some v ∧ test v = .ok a) ∨ (given.lookup name = none ∧ absent = some a) := by
  unfold Members.checked
  cases found : given.lookup name with
  | some v => simp [Checked.named_eq_valid_iff]
  | none => cases absent <;> simp

theorem Coercion.fits_of_optionalInteger {v : Value} {given : Option Int} (written : Json.writable v = true)
    (read : optionalInteger v = .ok given) : ∀ n, given = some n → Decimal.fits n = true := by
  rintro n rfl
  unfold optionalInteger at read
  split at read
  · cases read
  · cases whole : integer v with
    | ok m =>
      rw [whole] at read
      cases read
      exact fits_of_integer written whole
    | error complaint =>
      rw [whole] at read
      cases read

structure Settings.Writable (s : Settings) : Prop where
  renewalInterval : ∀ n, s.renewalInterval = some n → Decimal.fits n = true
  duration : ∀ n, s.duration = some n → Decimal.fits n = true

structure Service.Writable (s : Service) : Prop where
  port : Decimal.fits s.port = true
  securePort : Decimal.fits s.securePort = true
  settings : s.settings.Writable

theorem Settings.standard_writable : Settings.standard.Writable where
  renewalInterval := by rintro n ⟨⟩; decide
  duration := by rintro n ⟨⟩; decide

section

variable {given : Members} (written : Json.membersWritable given = true)

include written

/-- What holds of all results of a test and of the value of an absent member holds of a
checked member. -/
theorem Members.of_checked {α : Type} {P : α → Prop} {name : String} {absent : Option α}
    {test : Value → Except Complaint α} (tested : ∀ {v a}, Json.writable v = true → test v = .ok a → P a)
    (standard : ∀ a, absent = some a → P a) {a : α} (valid : given.checked name absent test = .valid a) : P a := by
  rcases Members.checked_eq_valid_iff.1 valid with ⟨v, found, passed⟩ | ⟨-, same⟩
  · exact tested (Json.writable_of_lookup written found) passed
  · exact standard a same

theorem Settings.writable_of_checkMembers {s : Settings} (valid : checkMembers given = .valid s) : s.Writable := by
  simp only [checkMembers, Checked.seq_eq_valid_iff, Checked.map_eq_valid_iff] at valid
  obtain ⟨_, duration, ⟨renewalInterval, first, rfl⟩, second, rfl⟩ := valid
  constructor
  · refine Members.of_checked written Coercion.fits_of_optionalInteger ?_ first
    rintro _ ⟨⟩
    exact Settings.standard_writable.renewalInterval
  · refine Members.of_checked written Coercion.fits_of_optionalInteger ?_ second
    rintro _ ⟨⟩
    exact Settings.standard_writable.duration

end

theorem Settings.writable_of_check {v : Value} {s : Settings} (written : Json.writable v = true)
    (valid : check v = .valid s) : s.Writable := by
  cases v with
  | object given => exact writable_of_checkMembers written valid
  | _ => cases valid

namespace Service

def nested (given : Members) : Checked Settings :=
  match given.lookup Lease.rootName with
  | some v => (Settings.check v).under Lease.rootName
  | none => .valid .standard

/-- A service is accepted if each of its members is. -/
theorem checkMembers_eq_valid_iff {given : Members} {s : Service} :
    checkMembers given = .valid s ↔
      given.checked "serviceName" none Coercion.text = .valid s.name ∧
      given.checked "healthEndpointPath" none Coercion.text = .valid s.healthPath ∧
      given.checked "infoEndpointPath" none Coercion.text = .valid s.infoPath ∧
      given.checked "httpPort" none Coercion.integer = .valid s.port ∧
      given.checked "securePort" (some standardSecurePort) Coercion.integer = .valid s.securePort ∧
      given.checked "hostName" none Coercion.text = .valid s.host ∧
      given.checked "dataCenterInfoName" (some standardDataCenter) Coercion.text = .valid s.dataCenter ∧
      given.checked "sslPreferred" (some false) Coercion.flag = .valid s.securePreferred ∧
      nested given = .valid s.settings := by
  simp only [checkMembers, Checked.seq_eq_valid_iff, Checked.map_eq_valid_iff]
  constructor
  · rintro ⟨_, _, ⟨_, _, ⟨_, _, ⟨_, _, ⟨_, _, ⟨_, _, ⟨_, _, ⟨_, _, ⟨_, name, rfl⟩, health, rfl⟩, info, rfl⟩, port, rfl⟩,
      securePort, rfl⟩, host, rfl⟩, center, rfl⟩, secure, rfl⟩, settings, rfl⟩
    exact ⟨name, health, info, port, securePort, host, center, secure, settings⟩
  · rintro ⟨name, health, info, port, securePort, host, center, secure, settings⟩
    exact ⟨_, _, ⟨_, _, ⟨_, _, ⟨_, _, ⟨_, _, ⟨_, _, ⟨_, _, ⟨_, _, ⟨_, name, rfl⟩, health, rfl⟩, info, rfl⟩, port, rfl⟩,
      securePort, rfl⟩, host, rfl⟩, center, rfl⟩, secure, rfl⟩, settings, rfl⟩

theorem writable_of_nested {given : Members} {s : Settings} (written : Json.membersWritable given = true)
    (valid : nested given = .valid s) : s.Writable := by
  unfold nested at valid
  split at valid
  · next v found =>
    exact Settings.writable_of_check (Json.writable_of_lookup written found) (Checked.under_eq_valid_iff.1 valid)
  · cases valid
    exact Settings.standard_writable

theorem writable_of_checkMembers {given : Members} {s : Service} (written : Json.membersWritable given = true)
    (valid : checkMembers given = .valid s) : s.Writable := by
  obtain ⟨-, -, -, port, securePort, -, -, -, settings⟩ := checkMembers_eq_valid_iff.1 valid
  constructor
  · exact Members.of_checked written Coercion.fits_of_integer (by simp) port
  · refine Members.of_checked written Coercion.fits_of_integer ?_ securePort
    rintro _ ⟨⟩
    decide
  · exact writable_of_nested written settings

theorem writable_of_ofValue {v : Value} {s : Service} (written : Json.writable v = true)
    (read : ofValue v = .ok s) : s.Writable := by
  unfold ofValue at read
  split at read
  · next valid =>
    cases read
    cases v with
    | object given => exact writable_of_checkMembers written valid
    | _ => cases valid
  · cases read

end Service

end ServiceLease
