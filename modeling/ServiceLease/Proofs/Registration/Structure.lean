import ServiceLease.Proofs.Registration.Document

/-! The structure of the document of an instance. It is the same for every service: no text
of a service can add an element, hide one or move one, and the port that is in use is the one
in the addresses. -/
namespace ServiceLease

namespace Xml

/-- The content that is read where a text was written. Of an empty text nothing is left. -/
def readBack (s : String) : List Node :=
  if s = "" then [] else (Text.unifyLineEnds s.toList).map .char

def leaf (tag : String) (attributes : List Attribute) (s : String) : Element := ⟨.plain tag, attributes, readBack s⟩

theorem leaf_eq_ofText (tag : String) (attributes : List Attribute) (s : String) :
    leaf tag attributes s = .ofText tag attributes (String.ofList (Text.unifyLineEnds s.toList)) := by
  rw [leaf, readBack, Element.ofText, Node.ofText, String.toList_ofList]
  split
  · next empty =>
    subst empty
    rfl
  · rfl

theorem unified_ofText_eq_leaf (tag : String) (attributes : List Attribute) (s : String) :
    (Element.ofText tag attributes s).unified = leaf tag attributes s := by
  rw [Element.unified_ofText, leaf_eq_ofText]

theorem leadingText_leaf (tag : String) (attributes : List Attribute) (s : String) :
    (leaf tag attributes s).leadingText = Text.unifyLineEnds s.toList := by
  rw [leaf_eq_ofText, Lease.leadingText_ofText, String.toList_ofList]

def Element.enabled (e : Element) : Bool := e.attributes.contains ⟨.plain "enabled", "true"⟩

end Xml

namespace Registration

open Xml (leaf)

def described (service : Service) (l : Lease) (address : String) : Xml.Element :=
  let upper := Text.upper service.name
  let flag (enabled : Bool) : List Xml.Attribute := [⟨.plain "enabled", if enabled then "true" else "false"⟩]
  .ofChildren "instance" [] [
    leaf "instanceId" [] (service.host ++ ":" ++ upper ++ ":" ++ Decimal.text service.port),
    leaf "hostName" [] service.host,
    leaf "app" [] upper,
    leaf "ipAddr" [] address,
    leaf "vipAddress" [] (Text.lower upper),
    leaf "secureVipAddress" [] (Text.lower upper),
    leaf "status" [] "UP",
    leaf "port" (flag !service.securePreferred) (Decimal.text service.port),
    leaf "securePort" (flag service.securePreferred) (Decimal.text service.securePort),
    leaf "homePageUrl" [] (baseUrl service ++ "/"),
    leaf "statusPageUrl" [] (baseUrl service ++ service.infoPath),
    leaf "healthCheckUrl" [] (baseUrl service ++ service.healthPath),
    .ofChildren "dataCenterInfo" [⟨.plain "class", "com.netflix.appinfo.InstanceInfo$DefaultDataCenterInfo"⟩]
      [leaf "name" [] service.dataCenter],
    .ofChildren "leaseInfo" [] (Field.all.map fun f => leaf f.wireName [] (Decimal.text (l.get f)))]

theorem element_unified (service : Service) (l : Lease) (address : String) :
    (element service l address).unified = described service l address := by
  simp only [element, portElement, Lease.element, Xml.Element.unified_ofChildren, List.map_cons, List.map_nil,
    Xml.unified_ofText_eq_leaf, List.map_map, Fields.entries, Function.comp_def]
  rfl

/-- The addresses of an instance that contain its port, with what follows the port. -/
def addresses (service : Service) : List (String × String) :=
  [("homePageUrl", "/"), ("statusPageUrl", service.infoPath), ("healthCheckUrl", service.healthPath)]

/-- One port of a root is enabled, and all addresses have its number and its scheme. -/
def OnePort (service : Service) (root : Xml.Element) : Prop :=
  ∃ live scheme, root.children.filter Xml.Element.enabled = [live] ∧
    (live.tag = "port" ∧ scheme = "http" ∨ live.tag = "securePort" ∧ scheme = "https") ∧
    ∀ url ∈ addresses service, ∃ e, root.child? url.1 = some e ∧
      e.leadingText = Text.unifyLineEnds ((scheme ++ "://" ++ service.host ++ ":").toList ++ live.leadingText ++ url.2.toList)

theorem child?_described (service : Service) (l : Lease) (address : String) :
    ∀ url ∈ addresses service,
      (described service l address).child? url.1 = some (leaf url.1 [] (baseUrl service ++ url.2)) := by
  intro url member
  simp only [addresses, List.mem_cons, List.not_mem_nil, or_false] at member
  rcases member with rfl | rfl | rfl <;> rfl

def livePort (tag : String) (n : Int) : Xml.Element := leaf tag [⟨.plain "enabled", "true"⟩] (Decimal.text n)

/-- The addresses are made from the port that is marked. -/
theorem onePort_of_live {service : Service} {l : Lease} {address tag scheme : String} {n : Int}
    (only : (described service l address).children.filter Xml.Element.enabled = [livePort tag n])
    (kind : tag = "port" ∧ scheme = "http" ∨ tag = "securePort" ∧ scheme = "https")
    (base : baseUrl service = scheme ++ "://" ++ service.host ++ ":" ++ Decimal.text n) :
    OnePort service (described service l address) := by
  refine ⟨livePort tag n, scheme, only, kind, fun url member => ?_⟩
  refine ⟨_, child?_described service l address url member, ?_⟩
  rw [livePort, Xml.leadingText_leaf, Xml.leadingText_leaf, Decimal.text_toList, Lease.digits_unified, base]
  simp only [String.toList_append, Decimal.text_toList]

theorem onePort_described (service : Service) (l : Lease) (address : String) :
    OnePort service (described service l address) := by
  cases secure : service.securePreferred with
  | false =>
    have only : (described service l address).children.filter Xml.Element.enabled =
        [livePort "port" service.port] := by
      simp only [described, secure]
      rfl
    exact onePort_of_live only (.inl ⟨rfl, rfl⟩) (by simp only [baseUrl, secure]; rfl)
  | true =>
    have only : (described service l address).children.filter Xml.Element.enabled =
        [livePort "securePort" service.securePort] := by
      simp only [described, secure]
      rfl
    exact onePort_of_live only (.inr ⟨rfl, rfl⟩) (by simp only [baseUrl, secure]; rfl)

/-- The document of an instance, if its texts are of characters that may occur, is read as
the same fourteen children whatever the texts are. -/
theorem document_structure (service : Service) (l : Lease) (hosts : Hosts) (given : Option String)
    (port : Decimal.digitCount service.port ≤ Decimal.digitLimit)
    (securePort : Decimal.digitCount service.securePort ≤ Decimal.digitLimit)
    (fields : ∀ f, Decimal.digitCount (l.get f) ≤ Decimal.digitLimit)
    (legal : ∀ s ∈ texts service (usedAddress hosts service.host given), ∀ c ∈ s.toList, Xml.isChar c = true) :
    ∃ text root, (document service l hosts given ()).result = .ok text ∧ Xml.read text = .ok root ∧
      root = described service l (usedAddress hosts service.host given) ∧ OnePort service root := by
  have lease := Lease.writable_of_short fields
  have written := (writable_iff service l).2 ⟨decide_eq_true port, decide_eq_true securePort, lease⟩
  have whole : (element service l (usedAddress hosts service.host given)).legal = true :=
    (element_legal_iff service l _).2 fun s member => List.all_eq_true.2 (legal s member)
  have read := Xml.read_render (element_plain service l _) whole
  rw [element_unified] at read
  exact ⟨_, _, document_result written hosts given, read, rfl, onePort_described service l _⟩

theorem document_structure_hostile :
    ∃ text root, (document hostile .initial [("</hostName><leaseInfo>", "")] none ()).result = .ok text ∧
      Xml.read text = .ok root ∧ root = described hostile .initial "" ∧ OnePort hostile root := by
  have fields : ∀ f, Decimal.digitCount (Lease.initial.get f) ≤ Decimal.digitLimit := by
    intro f
    cases f <;> decide
  have legal : (texts hostile "").all Xml.legalText = true := by decide
  exact document_structure hostile .initial [("</hostName><leaseInfo>", "")] none (by decide) (by decide) fields
    fun s member => List.all_eq_true.1 (List.all_eq_true.1 legal s member)

end Registration

end ServiceLease
