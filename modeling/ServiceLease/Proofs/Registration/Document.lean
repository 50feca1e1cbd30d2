import ServiceLease.Proofs.Action
import ServiceLease.Proofs.Lease.RoundTrip
import ServiceLease.Proofs.Text.Case
import ServiceLease.Registration.Document

/-! The lease in the document of an instance. It is read back whatever the other texts in
the document are, as long as they may stand in a document at all; if they may not, nothing
is read. -/
namespace ServiceLease.Registration

open Xml (legalText)

def texts (service : Service) (address : String) : List String :=
  [service.host, service.name, service.infoPath, service.healthPath, service.dataCenter, address]

/-! The element. -/

theorem element_plain (service : Service) (l : Lease) (address : String) :
    (element service l address).plain = true := by
  simp only [element, portElement, Xml.Element.plain_ofChildren, Xml.Element.plain_ofText, List.all_cons,
    Lease.element_plain]
  cases service.securePreferred <;> decide

theorem legalText_idText (service : Service) :
    legalText (idText service) = (legalText service.host && legalText service.name) := by
  have colon : legalText ":" = true := by decide
  simp only [idText, serviceKey, Xml.legalText_append, Text.legalText_upper, Lease.digits_legal, colon,
    Bool.and_true]

theorem legalText_baseUrl (service : Service) : legalText (baseUrl service) = legalText service.host := by
  have colon : legalText ":" = true := by decide
  have root : legalText ("http" ++ "://") = true ∧ legalText ("https" ++ "://") = true := by decide
  rw [baseUrl]
  cases service.securePreferred <;>
    simp only [Bool.false_eq_true, if_true, if_false, Xml.legalText_append _ service.host,
      Xml.legalText_append _ ":", Xml.legalText_append _ (Decimal.text _), Lease.digits_legal, root, colon,
      Bool.and_true, Bool.true_and]

/-- Case mappings, digits and the rest of the addresses add no character that may not occur. -/
theorem element_legal_iff (service : Service) (l : Lease) (address : String) :
    (element service l address).legal = true ↔ ∀ s ∈ texts service address, legalText s = true := by
  have status : legalText "UP" = true := by decide
  have slash : legalText "/" = true := by decide
  simp only [element, portElement, Xml.Element.legal_ofChildren, Xml.Element.legal_ofText, List.all_cons,
    List.all_nil, Lease.element_legal, legalText_idText, serviceKey, Xml.legalText_append (baseUrl service),
    legalText_baseUrl, Text.legalText_upper, Text.legalText_lower, Lease.digits_legal, status, slash,
    Bool.and_true, Bool.true_and, Bool.and_eq_true, texts, List.forall_mem_cons, List.not_mem_nil, false_implies, implies_true,
    and_true]
  constructor
  · rintro ⟨⟨host, name⟩, -, -, address, -, -, -, ⟨-, info⟩, ⟨-, health⟩, center⟩
    exact ⟨host, name, info, health, center, address⟩
  · rintro ⟨host, name, info, health, center, address⟩
    exact ⟨⟨host, name⟩, host, name, address, name, name, host, ⟨host, info⟩, ⟨host, health⟩, center⟩

/-- No other child of the root has the tag of a lease. -/
theorem child?_element (service : Service) (l : Lease) (address : String) :
    (element service l address).unified.child? Lease.rootName = some l.element.unified := rfl

theorem locate_element (service : Service) (l : Lease) (address : String) :
    Lease.locate (element service l address).unified = .ok l.element := by
  have other : (element service l address).unified.tag ≠ Lease.rootName := by
    show "instance" ≠ "leaseInfo"
    decide
  rw [Lease.locate, if_neg other, child?_element, Lease.element_unified]

theorem ofDocument_element {service : Service} {l : Lease} {address : String} (known : l.writable = true)
    (legal : (element service l address).legal = true) :
    Lease.ofDocument (Xml.render (element service l address)) = .ok l := by
  have read := Xml.read_render (element_plain service l address) legal
  rw [Lease.ofDocument_of_read read (locate_element service l address)]
  exact Lease.ofElement_element known

theorem ofDocument_illegal {service : Service} {l : Lease} {address : String}
    (illegal : (element service l address).legal = false) :
    ∃ e, Lease.ofDocument (Xml.render (element service l address)) = .error (.xml e) := by
  obtain ⟨e, refused⟩ := Xml.read_render_illegal (element_plain service l address) illegal
  exact ⟨e, Lease.ofDocument_of_error refused⟩

/-! The document. -/

/-- The address that stands in the document: the given one, or else that of the host. -/
def usedAddress (hosts : Hosts) (host : String) (given : Option String) : String :=
  given.getD ((hosts.lookup host).getD loopback)

theorem address_result (hosts : Hosts) (host : String) :
    (address hosts host ()).result = .ok ((hosts.lookup host).getD loopback) := by
  rw [address]
  cases hosts.lookup host <;> rfl

theorem document_result {service : Service} {l : Lease} (known : writable service l = true) (hosts : Hosts)
    (given : Option String) : (document service l hosts given ()).result =
      .ok (Xml.render (element service l (usedAddress hosts service.host given))) := by
  have finish (ip : String) : ((do
      if writable service l then
        let text := Xml.render (element service l ip)
        .note (.documentBuilt (serviceKey service) text)
        return text
      else .fail .integerUnwritable : Logged String) ()).result = .ok (Xml.render (element service l ip)) := by
    rw [if_pos known]
    rfl
  cases given with
  | none => exact (Action.result_bind _ (address_result hosts service.host)).trans (finish _)
  | some ip => exact finish ip

theorem writable_iff (service : Service) (l : Lease) :
    writable service l = true ↔
      Decimal.fits service.port = true ∧ Decimal.fits service.securePort = true ∧ l.writable = true := by
  rw [writable, Bool.and_eq_true, Bool.and_eq_true, and_assoc]

/-- The document of an instance gives back the lease that was put into it exactly if all
free texts are of characters that may occur in a document; otherwise it cannot be read. -/
theorem document_carries_lease (service : Service) (l : Lease) (hosts : Hosts) (given : Option String)
    (port : Decimal.digitCount service.port ≤ Decimal.digitLimit)
    (securePort : Decimal.digitCount service.securePort ≤ Decimal.digitLimit)
    (fields : ∀ f, Decimal.digitCount (l.get f) ≤ Decimal.digitLimit) :
    ∃ text, (document service l hosts given ()).result = .ok text ∧
      (Lease.ofDocument text = .ok l ↔
        ∀ s ∈ texts service (usedAddress hosts service.host given), ∀ c ∈ s.toList, Xml.isChar c = true) ∧
      ((∃ s ∈ texts service (usedAddress hosts service.host given), ∃ c ∈ s.toList, Xml.isChar c = false) →
        ∃ e, Lease.ofDocument text = .error (.xml e)) := by
  have lease := Lease.writable_of_short fields
  have known := (writable_iff service l).2 ⟨decide_eq_true port, decide_eq_true securePort, lease⟩
  refine ⟨_, document_result known hosts given, ⟨fun read => ?_, fun legal => ?_⟩, ?_⟩
  · by_cases whole : (element service l (usedAddress hosts service.host given)).legal = true
    · intro s member
      exact List.all_eq_true.1 ((element_legal_iff service l _).1 whole s member)
    · obtain ⟨e, refused⟩ := ofDocument_illegal (Bool.eq_false_iff.2 whole)
      rw [refused] at read
      cases read
  · refine ofDocument_element lease ((element_legal_iff service l _).2 fun s member => ?_)
    exact List.all_eq_true.2 (legal s member)
  · rintro ⟨s, member, c, inside, illegal⟩
    refine ofDocument_illegal (Bool.eq_false_iff.2 fun whole => ?_)
    have legal := List.all_eq_true.1 ((element_legal_iff service l _).1 whole s member) c inside
    rw [legal] at illegal
    cases illegal

def hostile : Service where
  name := "straße</app>"
  healthPath := "]]>"
  infoPath := "?a&b=\"c\""
  port := 0
  securePort := -1
  host := "</hostName><leaseInfo>"
  dataCenter := "\r\n"
  securePreferred := true
  settings := ⟨none, none⟩

theorem document_carries_lease_hostile :
    (∃ text, (document hostile .initial [("</hostName><leaseInfo>", "<!--")] none ()).result = .ok text ∧
      Lease.ofDocument text = .ok .initial) ∧
    ∃ text e, (document hostile .initial [] (some "\x00") ()).result = .ok text ∧
      Lease.ofDocument text = .error (.xml e) := by
  have fields : ∀ f, Decimal.digitCount (Lease.initial.get f) ≤ Decimal.digitLimit := by
    intro f
    cases f <;> decide
  constructor
  · obtain ⟨text, built, carried, -⟩ := document_carries_lease hostile .initial
      [("</hostName><leaseInfo>", "<!--")] none (by decide) (by decide) fields
    have legal : (texts hostile "<!--").all legalText = true := by decide
    have each := List.all_eq_true.1 legal
    exact ⟨text, built, carried.2 fun s member => List.all_eq_true.1 (each s member)⟩
  · obtain ⟨text, built, -, refused⟩ := document_carries_lease hostile .initial [] (some "\x00") (by decide)
      (by decide) fields
    obtain ⟨e, error⟩ := refused ⟨"\x00", by decide, '\x00', by decide, by decide⟩
    exact ⟨text, e, built, error⟩

end ServiceLease.Registration
