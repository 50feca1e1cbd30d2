import ServiceLease.Action
import ServiceLease.Lease.Markup
import ServiceLease.Service.Config
import ServiceLease.Text.Case
import ServiceLease.Xml.Printer

/-! The document by which an instance registers. -/
namespace ServiceLease.Registration

abbrev Hosts := List (String × String)

/-- The address of a host; one that is not known gets the loopback address. -/
def address (hosts : Hosts) (host : String) : Logged String :=
  match hosts.lookup host with
  | some a => return a
  | none => do
    .note (.addressUnknown host)
    return loopback

def serviceKey (service : Service) : String := Text.upper service.name

/-- The text of an identifier: host, service and port, divided by colons. -/
def idText (service : Service) : String :=
  service.host ++ ":" ++ serviceKey service ++ ":" ++ Decimal.text service.port

def instanceId (service : Service) : Except Failure String :=
  if Decimal.fits service.port then .ok (idText service) else .error .integerUnwritable

def baseUrl (service : Service) : String :=
  let (scheme, port) :=
    if service.securePreferred then ("https", service.securePort) else ("http", service.port)
  scheme ++ "://" ++ service.host ++ ":" ++ Decimal.text port

def dataCenterClass : String := "com.netflix.appinfo.InstanceInfo$DefaultDataCenterInfo"

def portElement (tag : String) (enabled : Bool) (port : Int) : Xml.Element :=
  .ofText tag [⟨.plain "enabled", if enabled then "true" else "false"⟩] (Decimal.text port)

def element (service : Service) (l : Lease) (address : String) : Xml.Element :=
  let key := serviceKey service
  let vip := Text.lower key
  let base := baseUrl service
  .ofChildren "instance" [] [
    .ofText "instanceId" [] (idText service),
    .ofText "hostName" [] service.host,
    .ofText "app" [] key,
    .ofText "ipAddr" [] address,
    .ofText "vipAddress" [] vip,
    .ofText "secureVipAddress" [] vip,
    .ofText "status" [] "UP",
    portElement "port" (!service.securePreferred) service.port,
    portElement "securePort" service.securePreferred service.securePort,
    .ofText "homePageUrl" [] (base ++ "/"),
    .ofText "statusPageUrl" [] (base ++ service.infoPath),
    .ofText "healthCheckUrl" [] (base ++ service.healthPath),
    .ofChildren "dataCenterInfo" [⟨.plain "class", dataCenterClass⟩] [.ofText "name" [] service.dataCenter],
    l.element]

def writable (service : Service) (l : Lease) : Bool :=
  Decimal.fits service.port && Decimal.fits service.securePort && l.writable

def document (service : Service) (l : Lease) (hosts : Hosts) (given : Option String) : Logged String := do
  let ip ← match given with
    | some ip => pure ip
    | none => address hosts service.host
  if writable service l then
    let text := Xml.render (element service l ip)
    .note (.documentBuilt (serviceKey service) text)
    return text
  else .fail .integerUnwritable

end ServiceLease.Registration
