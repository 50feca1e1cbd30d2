import ServiceLease.Proofs.Json.RoundTrip
import ServiceLease.Proofs.Lease.Markup
import ServiceLease.Proofs.Lease.Wire
import ServiceLease.Proofs.Xml.RoundTrip

/-! Wire forms of a lease. Every form that a lease with six writable integers is given is
read back as that lease. -/
namespace ServiceLease.Lease

/-! Members. -/

theorem wireNames_nodup : (Field.all.map Field.wireName).Nodup := by decide

theorem names_members (l : Lease) : l.members.map Prod.fst = Field.all.map Field.wireName := rfl

theorem lookup_members (l : Lease) (f : Field) : l.members.lookup f.wireName = some (.int (l.get f)) := by
  cases f <;> rfl

theorem unwrap_members (l : Lease) : unwrap l.members = l.members := rfl

theorem unwrap_wrapped (l : Lease) : unwrap [(rootName, .object l.members)] = l.members := rfl

/-- The members of a lease give its fields. -/
theorem effective_members {given : Members} {l : Lease} (inner : unwrap given = l.members) :
    effective given = l.map .int := by
  refine Fields.ext_get fun f => ?_
  rw [Fields.get_map]
  refine effective_of_lookup ?_ (by simp)
  rw [inner, lookup_members]

theorem ofMembers_members {given : Members} {l : Lease} (inner : unwrap given = l.members) :
    ofMembers given = .ok l := by
  rw [ofMembers_eq, effective_members inner, ofValues_ints]

theorem ofValue_toValue (l : Lease) (wrapped : Bool) : ofValue (l.toValue wrapped) = .ok l := by
  cases wrapped with
  | false => exact ofMembers_members (unwrap_members l)
  | true => exact ofMembers_members (unwrap_wrapped l)

/-! JSON. -/

theorem writable_iff (l : Lease) : l.writable = true ↔ ∀ f, Decimal.fits (l.get f) = true := by
  rw [writable, Fields.entries, List.all_map, List.all_eq_true]
  exact ⟨fun known f => known f f.mem_all, fun known f _ => known f⟩

theorem writable_of_short {l : Lease} (short : ∀ f, Decimal.digitCount (l.get f) ≤ Decimal.digitLimit) :
    l.writable = true := by
  rw [writable_iff]
  exact fun f => decide_eq_true (short f)

theorem plain_members {l : Lease} (known : l.writable = true) (levels : Nat) :
    Json.plain (levels + 1) (.object l.members) = true := by
  have fits := l.writable_iff.1 known
  have names : ∀ f : Field, Json.plainText f.wireName = true := by
    intro f
    cases f <;> decide
  rw [Json.plain, names_members, decide_eq_true wireNames_nodup, Bool.and_true]
  simp [members, Fields.entries, Field.all, Json.membersPlain, Json.plain, names, fits]

/-- Two levels are enough for a lease. -/
theorem plain_toValue {l : Lease} (known : l.writable = true) (levels : Nat) (wrapped : Bool) :
    Json.plain (levels + 2) (l.toValue wrapped) = true := by
  have name : Json.plainText rootName = true := by decide
  cases wrapped with
  | false => exact plain_members known (levels + 1)
  | true =>
    have inside : levels + 2 - 1 = levels + 1 := rfl
    rw [toValue, if_pos rfl, Json.plain, Json.membersPlain, Json.membersPlain, inside, plain_members known levels, name]
    rfl

theorem ofJson_of_read {text : String} {v : Value} (read : Json.read text = .ok v) : ofJson text = ofValue v := by
  have inner : Json.readIn Json.outermost text = .ok v := read
  rw [ofJson, ofJsonIn, inner]
  rfl

theorem ofJson_toJson {l : Lease} (known : l.writable = true) (wrapped : Bool) :
    ∃ text, l.toJson wrapped = .ok text ∧ ofJson text = .ok l := by
  have plain : Json.plain Json.outermost (l.toValue wrapped) = true := plain_toValue known 992 wrapped
  refine ⟨String.ofList (Json.write (l.toValue wrapped)), ?_, ?_⟩
  · rw [toJson, Json.render?_of_plain plain]
  · rw [ofJson_of_read (Json.read_write plain)]
    exact ofValue_toValue l wrapped

/-! Elements. -/

theorem wireName_mem_tags (f : Field) : f.wireName ∈ tags := by
  cases f <;> decide

def given (entry : Field × Int) : Given := (entry.1.wireName, some entry.2)

theorem element_eq_listing (l : Lease) : l.element = listing (l.entries.map given) := by
  rw [listing, List.map_map]
  rfl

theorem ofElement_element {l : Lease} (known : l.writable = true) : ofElement l.element = .ok l := by
  have readable : ∀ g ∈ l.entries.map given, g.Readable := by
    intro g inside
    obtain ⟨entry, here, rfl⟩ := List.mem_map.1 inside
    refine ⟨wireName_mem_tags entry.1, ?_⟩
    rintro n ⟨⟩
    exact List.all_eq_true.1 known entry here
  have once : ((l.entries.map given).map Prod.fst).Nodup := wireNames_nodup
  rw [element_eq_listing, ofElement_of_lists readable (listing_lists _) once]
  rfl

/-! Documents. -/

theorem element_plain (l : Lease) : l.element.plain = true := by
  rw [element_eq_listing]
  apply listing_plain
  intro g inside
  obtain ⟨entry, -, rfl⟩ := List.mem_map.1 inside
  exact wireName_mem_tags entry.1

theorem element_legal (l : Lease) : l.element.legal = true := by
  rw [element_eq_listing, listing_legal]

/-- A lease has no ends of lines. -/
theorem element_unified (l : Lease) : l.element.unified = l.element := by
  rw [element_eq_listing, listing_unified]

theorem ofDocument_eq {text : String} {root : Xml.Element} (read : Xml.read text = .ok root) :
    ofDocument text = (do ofElement (← locate root)) := by
  rw [ofDocument, read]
  rfl

theorem ofDocument_of_read {text : String} {root e : Xml.Element} (read : Xml.read text = .ok root)
    (found : locate root = .ok e) : ofDocument text = ofElement e := by
  rw [ofDocument_eq read, found]
  rfl

theorem ofDocument_of_error {text : String} {e : Xml.Error} (refused : Xml.read text = .error e) :
    ofDocument text = .error (.xml e) := by
  rw [ofDocument, refused]
  rfl

theorem ofDocument_toDocument {l : Lease} (known : l.writable = true) :
    ∃ text, l.toDocument = .ok text ∧ ofDocument text = .ok l := by
  refine ⟨Xml.render l.element, ?_, ?_⟩
  · rw [toDocument, toElement, if_pos known]
    rfl
  · have read := Xml.read_render (element_plain l) (element_legal l)
    have root : locate l.element = .ok l.element := if_pos rfl
    rw [element_unified] at read
    rw [ofDocument_of_read read root]
    exact ofElement_element known

/-- Decoding undoes encoding in every wire form of a lease whose integers have a text. -/
theorem decode_encode (l : Lease) (short : ∀ f, Decimal.digitCount (l.get f) ≤ Decimal.digitLimit) :
    (∀ wrapped, ofValue (l.toValue wrapped) = .ok l) ∧
    (∀ wrapped, ∃ text, l.toJson wrapped = .ok text ∧ ofJson text = .ok l) ∧
    (∃ e, l.toElement = .ok e ∧ ofElement e = .ok l) ∧
    ∃ text, l.toDocument = .ok text ∧ ofDocument text = .ok l := by
  have known := writable_of_short short
  have element : l.toElement = .ok l.element := if_pos known
  refine ⟨ofValue_toValue l, ofJson_toJson known, ?_, ofDocument_toDocument known⟩
  exact ⟨l.element, element, ofElement_element known⟩

def extremes : Lease :=
  ⟨-7, 0, Decimal.beyond Decimal.digitLimit - 1, 1 - Decimal.beyond Decimal.digitLimit, 1, -1⟩

theorem decode_encode_extremes :
    (∀ f, Decimal.digitCount (extremes.get f) ≤ Decimal.digitLimit) ∧
    (∀ wrapped, ∃ text, extremes.toJson wrapped = .ok text ∧ ofJson text = .ok extremes) ∧
    ∃ text, extremes.toDocument = .ok text ∧ ofDocument text = .ok extremes := by
  have large : 10 ≤ Decimal.beyond Decimal.digitLimit := Decimal.ten_le_beyond (by decide)
  have short : ∀ f, Decimal.digitCount (extremes.get f) ≤ Decimal.digitLimit := by
    intro f
    refine of_decide_eq_true ((Decimal.fits_iff (extremes.get f)).2 ?_)
    cases f <;> simp only [extremes, Fields.get] <;> omega
  obtain ⟨-, json, -, document⟩ := decode_encode extremes short
  exact ⟨short, json, document⟩

end ServiceLease.Lease
