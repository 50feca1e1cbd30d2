import ServiceLease.Proofs.Registration.Document
import ServiceLease.Proofs.Registration.Lease
import ServiceLease.Proofs.Service.Catalogue

/-! From a catalogue to a registration. The limit on integers is met when a catalogue is
read, so that nothing that is made of its services can fail on it later. -/
namespace ServiceLease.Registration

theorem fits_inForce (f : Field) {given : Option Int} (written : ∀ n, given = some n → Decimal.fits n = true) :
    Decimal.fits (f.inForce given) = true := by
  have initial : Decimal.fits f.initial = true := by cases f <;> decide
  cases given with
  | none => exact initial
  | some n =>
    rw [Field.inForce]
    split
    · exact written n rfl
    · exact initial

/-- All integers of a first lease have a text if those that it is made of do. -/
theorem firstLease_writable {settings : Settings} (written : settings.Writable) {now : Int}
    (short : Decimal.fits now = true) : Lease.writable (firstLease settings now) = true := by
  have zero : Decimal.fits 0 = true := by decide
  rw [Lease.writable_iff]
  intro f
  cases f with
  | renewalInterval => exact fits_inForce .renewalInterval written.renewalInterval
  | duration => exact fits_inForce .duration written.duration
  | registration => exact short
  | lastRenewal => exact short
  | eviction => exact zero
  | serviceUp => exact short

/-- A service whose integers have a text is registered at any such time. -/
theorem registers_of_writable {service : Service} (written : service.Writable) {now : Int}
    (short : Decimal.fits now = true) (clock : Clock) (hosts : Hosts) (given : Option String) :
    (∃ id, instanceId service = .ok id) ∧
    ∃ l text, (lease service clock (.int now) ()).result = .ok l ∧
      (document service l hosts given ()).result = .ok text := by
  have id : instanceId service = .ok (idText service) := if_pos written.port
  have first := lease_eq written.settings clock now
  have whole : writable service (firstLease service.settings now) = true :=
    (writable_iff service _).2 ⟨written.port, written.securePort, firstLease_writable written.settings short⟩
  refine ⟨⟨_, id⟩, firstLease service.settings now, ?_⟩
  rw [first]
  exact ⟨_, rfl, document_result whole hosts given⟩

/-- Every service of a catalogue that is loaded can register: it has an identifier, a first
lease at any time that has a text, and a document with that lease, whether or not its host
is known. -/
theorem loaded_service_registers (path : String) (octets : List UInt8) (all : List Service)
    (loaded : (Catalogue.load path (some octets) ()).result = .ok all) (service : Service) (member : service ∈ all)
    (now : Int) (short : Decimal.digitCount now ≤ Decimal.digitLimit) (clock : Clock) (hosts : Hosts)
    (given : Option String) :
    (∃ id, instanceId service = .ok id) ∧
    ∃ l text, (lease service clock (.int now) ()).result = .ok l ∧
      (document service l hosts given ()).result = .ok text :=
  registers_of_writable (Catalogue.writable_of_mem_load loaded member) (decide_eq_true short) clock hosts given

def oddCatalogue : List UInt8 :=
  ["[\x7b\"serviceName\": \"ß\", ", "\"hostName\": \"\\u0000\", ", "\"healthEndpointPath\": \"]]>\", ",
    "\"infoEndpointPath\": \"\", ", "\"httpPort\": \" -00_8.0\", ",
    "\"leaseInfo\": \x7b\"renewalIntervalInSecs\": null, ", "\"durationInSecs\": -5\x7d\x7d]"].flatMap (·.toUTF8.data.toList)

def oddService : Service where
  name := "ß"
  healthPath := "]]>"
  infoPath := ""
  port := -8
  securePort := 443
  host := "\x00"
  dataCenter := "MyOwn"
  securePreferred := false
  settings := ⟨none, some (-5)⟩

theorem oddCatalogue_loaded : (Catalogue.load "services.json" (some oddCatalogue) ()).result = .ok [oddService] := by
  have evaluated : ((Text.Utf8.decode oddCatalogue).toOption.bind fun chars =>
      (Json.readChars Catalogue.outermost (Text.unifyLineEnds chars)).toOption.bind fun v =>
        (Catalogue.services v).toOption) = some [oddService] := by decide +kernel
  obtain ⟨chars, decoded, rest⟩ := Option.bind_eq_some_iff.1 evaluated
  obtain ⟨v, parsed, made⟩ := Option.bind_eq_some_iff.1 rest
  exact Catalogue.load_of_read _ (toOption_eq_some_iff.1 decoded) (toOption_eq_some_iff.1 parsed)
    (toOption_eq_some_iff.1 made)

/-- The least integer that has a text. -/
def earliest : Int := 1 - Decimal.beyond Decimal.digitLimit

theorem loaded_service_registers_odd :
    (Catalogue.load "services.json" (some oddCatalogue) ()).result = .ok [oddService] ∧
    Decimal.digitCount earliest ≤ Decimal.digitLimit ∧
    (∃ id, instanceId oddService = .ok id) ∧
    ∃ l text, (lease oddService (.whole 0) (.int earliest) ()).result = .ok l ∧
      (document oddService l [] none ()).result = .ok text := by
  have short : Decimal.digitCount earliest ≤ Decimal.digitLimit := by
    refine of_decide_eq_true ((Decimal.fits_iff earliest).2 ?_)
    have large : 10 ≤ Decimal.beyond Decimal.digitLimit := Decimal.ten_le_beyond (by decide)
    rw [earliest]
    omega
  exact ⟨oddCatalogue_loaded, short, loaded_service_registers "services.json" oddCatalogue [oddService]
    oddCatalogue_loaded oddService (by simp) earliest short (.whole 0) [] none⟩

end ServiceLease.Registration
