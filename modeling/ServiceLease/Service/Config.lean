import ServiceLease.Coercion
import ServiceLease.Failure
import ServiceLease.Lease.Wire

/-! Services as a configuration describes them: where they can be reached, and the
lease settings they ask for. -/
namespace ServiceLease

/-- The settings of a lease. Null is kept; a builder replaces it when the lease is
made. -/
structure Settings where
  renewalInterval : Option Int
  duration : Option Int
  deriving DecidableEq, Repr

structure Service where
  name : String
  healthPath : String
  infoPath : String
  port : Int
  securePort : Int
  host : String
  dataCenter : String
  securePreferred : Bool
  settings : Settings
  deriving DecidableEq, Repr

/-- The checked member of an object; `absent` stands in where there is none, if it may
be left out. -/
def Members.checked (given : Members) (name : String) (absent : Option α)
    (test : Value → Except Complaint α) : Checked α :=
  match given.lookup name, absent with
  | some v, _ => .named name (test v)
  | none, some a => .valid a
  | none, none => .invalid [⟨[name], .missing⟩]

namespace Settings

def standard : Settings := ⟨Field.renewalInterval.standard?, Field.duration.standard?⟩

def checkMembers (given : Members) : Checked Settings :=
  Settings.mk
    <$> given.checked Field.renewalInterval.wireName (some standard.renewalInterval) Coercion.optionalInteger
    <*> given.checked Field.duration.wireName (some standard.duration) Coercion.optionalInteger

def check : Value → Checked Settings
  | .object given => checkMembers given
  | _ => .invalid [⟨[], .notRecord .settings⟩]

def ofValue (v : Value) : Except Failure Settings :=
  match check v with
  | .valid s => .ok s
  | .invalid issues => .error (.rejected .settings issues)

def optional : Option Int → Value
  | none => .null
  | some n => .int n

def toValue (s : Settings) : Value :=
  .object [(Field.renewalInterval.wireName, optional s.renewalInterval),
    (Field.duration.wireName, optional s.duration)]

end Settings

namespace Service

def standardSecurePort : Int := 443

def standardDataCenter : String := "MyOwn"

def checkMembers (given : Members) : Checked Service :=
  Service.mk
    <$> given.checked "serviceName" none Coercion.text
    <*> given.checked "healthEndpointPath" none Coercion.text
    <*> given.checked "infoEndpointPath" none Coercion.text
    <*> given.checked "httpPort" none Coercion.integer
    <*> given.checked "securePort" (some standardSecurePort) Coercion.integer
    <*> given.checked "hostName" none Coercion.text
    <*> given.checked "dataCenterInfoName" (some standardDataCenter) Coercion.text
    <*> given.checked "sslPreferred" (some false) Coercion.flag
    <*> (match given.lookup Lease.rootName with
      | some v => (Settings.check v).under Lease.rootName
      | none => .valid .standard)

def check : Value → Checked Service
  | .object given => checkMembers given
  | _ => .invalid [⟨[], .notRecord .service⟩]

def ofValue (v : Value) : Except Failure Service :=
  match check v with
  | .valid s => .ok s
  | .invalid issues => .error (.rejected .service issues)

def toValue (s : Service) : Value :=
  .object [("serviceName", .text s.name), ("healthEndpointPath", .text s.healthPath),
    ("infoEndpointPath", .text s.infoPath), ("httpPort", .int s.port), ("securePort", .int s.securePort),
    ("hostName", .text s.host), ("dataCenterInfoName", .text s.dataCenter),
    ("sslPreferred", .bool s.securePreferred), (Lease.rootName, s.settings.toValue)]

end Service

end ServiceLease
