import ServiceLease.Proofs.Coercion
import ServiceLease.Proofs.Failure
import ServiceLease.Proofs.Json.Limit
import ServiceLease.Proofs.Lease.RoundTrip

/-! From one wire form to another. What a reader accepts may be spelled in many ways, but the
lease that it gives can be written again in every form. -/
namespace ServiceLease.Lease

/-! What is read has a text. -/

theorem writable_of_ofValues {name : Field → String} {x : Fields Value} {l : Lease}
    (written : ∀ f, Json.writable (x.get f) = true) (checked : ofValues Coercion.integer name x = .ok l) :
    l.writable = true := by
  rw [writable_iff]
  exact fun f => Coercion.fits_of_integer (written f) (integer_of_ofValues checked f)

theorem membersWritable_unwrap {given : Members} (written : Json.membersWritable given = true) :
    Json.membersWritable (unwrap given) = true := by
  unfold unwrap
  split
  · next inner found => exact Json.writable_of_lookup written found
  · exact written

theorem writable_of_find? {given : Members} {name : String} {v : Value}
    (written : Json.membersWritable given = true) (found : given.find? name = some v) : Json.writable v = true :=
  Json.writable_of_lookup written (Value.present?_eq_some_iff.1 found).1

theorem writable_of_wireValue? {given : Members} {f : Field} {v : Value}
    (written : Json.membersWritable given = true) (found : wireValue? given f = some v) :
    Json.writable v = true := by
  unfold wireValue? at found
  split at found
  · next w canonical =>
    cases found
    exact writable_of_find? written canonical
  · split at found
    · exact writable_of_find? written found
    · cases found

theorem writable_of_ofMembers {given : Members} {l : Lease} (written : Json.membersWritable given = true)
    (read : ofMembers given = .ok l) : l.writable = true := by
  refine writable_of_ofValues (fun f => ?_) read
  rw [effective, Fields.get_ofFn]
  cases found : wireValue? (unwrap given) f with
  | none => rfl
  | some v => exact writable_of_wireValue? (membersWritable_unwrap written) found

theorem writable_of_ofJson {text : String} {l : Lease} (read : ofJson text = .ok l) : l.writable = true := by
  unfold ofJson ofJsonIn at read
  split at read
  · next v parsed =>
    have written := Json.writable_of_readIn parsed
    cases v with
    | object given => exact writable_of_ofMembers written read
    | _ => cases read
  · cases read

/-- A child gives a number only from a text within the digit limit. -/
theorem fits_of_last? {rs : List Reading} {name : String} {n : Int} (last : last? rs name = some n) :
    Decimal.fits n = true := by
  obtain ⟨text, -, number⟩ := Option.bind_eq_some_iff.1 last
  exact Numeral.fits_of_ofElementText number

theorem writable_ofNumbers {number? : String → Option Int}
    (short : ∀ name n, number? name = some n → Decimal.fits n = true) : (ofNumbers number?).writable = true := by
  have orZero {n? : Option Int} (known : ∀ n, n? = some n → Decimal.fits n = true) : Decimal.fits (n?.getD 0) = true := by
    cases n? with
    | none => decide
    | some n => exact known n rfl
  rw [writable_iff]
  intro f
  cases f with
  | lastRenewal =>
    refine orZero fun n found => ?_
    rcases Option.or_eq_some_iff.1 found with first | ⟨-, second⟩
    · exact short _ n first
    · exact short _ n second
  | _ => exact orZero (short _)

theorem writable_of_ofElement {e : Xml.Element} {l : Lease} (read : ofElement e = .ok l) : l.writable = true := by
  obtain ⟨-, rfl⟩ := ofElement_eq_ok_iff.1 read
  exact writable_ofNumbers fun name n => fits_of_last?

theorem writable_of_ofDocument {text : String} {l : Lease} (read : ofDocument text = .ok l) :
    l.writable = true := by
  obtain ⟨root, -, located⟩ := bind_eq_ok_iff.1 read
  obtain ⟨e, -, inside⟩ := bind_eq_ok_iff.1 located
  exact writable_of_ofElement inside

/-! What is read is written. -/

def relay (wrapped : Bool) (l : Lease) : Except Failure Lease := do
  let copy ← ofDocument (← l.toDocument)
  ofJson (← copy.toJson wrapped)

/-- A lease that was read from JSON or from a document has no integer beyond the limit. It can
be written in both forms, and is read back from each of them and from one after the other. -/
theorem read_lease_transcodes (text : String) (l : Lease) (read : ofJson text = .ok l ∨ ofDocument text = .ok l) :
    (∀ f, Decimal.digitCount (l.get f) ≤ Decimal.digitLimit) ∧
    (∀ wrapped, ∃ json, l.toJson wrapped = .ok json ∧ ofJson json = .ok l) ∧
    (∃ document, l.toDocument = .ok document ∧ ofDocument document = .ok l) ∧
    ∀ wrapped, l.relay wrapped = .ok l := by
  have written : l.writable = true := read.elim writable_of_ofJson writable_of_ofDocument
  have short : ∀ f, Decimal.fits (l.get f) = true := l.writable_iff.1 written
  have json := ofJson_toJson written
  have document := ofDocument_toDocument written
  refine ⟨fun f => of_decide_eq_true (short f), json, document, fun wrapped => ?_⟩
  obtain ⟨text, made, copied⟩ := document
  refine bind_eq_ok_iff.2 ⟨text, made, ?_⟩
  refine bind_eq_ok_iff.2 ⟨l, copied, ?_⟩
  exact bind_eq_ok_iff.2 (json wrapped)

def mixedJson : String :=
  "\x7b\"leaseInfo\": \x7b\"durationInSecs\": 1e3, \"renewalTimestamp\": \" +0__00_7.0 \", \"serviceUpTimestamp\": true\x7d\x7d"

def arabicElement : Xml.Element :=
  .ofChildren rootName [] [.ofText "evictionTimestamp" [] " -٣_٠\r\n", .ofText "note" [] "-"]

theorem read_lease_transcodes_spellings :
    (ofJson mixedJson = .ok ⟨0, 1000, 0, 7, 0, 1⟩ ∧
      ∀ wrapped, relay wrapped ⟨0, 1000, 0, 7, 0, 1⟩ = .ok ⟨0, 1000, 0, 7, 0, 1⟩) ∧
    ofDocument (Xml.render arabicElement) = .ok ⟨0, 0, 0, 0, -30, 0⟩ ∧
      ∀ wrapped, relay wrapped ⟨0, 0, 0, 0, -30, 0⟩ = .ok ⟨0, 0, 0, 0, -30, 0⟩ := by
  have json : ofJson mixedJson = .ok ⟨0, 1000, 0, 7, 0, 1⟩ := toOption_eq_some_iff.1 (by decide +kernel)
  have element : ofElement arabicElement.unified = .ok ⟨0, 0, 0, 0, -30, 0⟩ :=
    toOption_eq_some_iff.1 (by decide +kernel)
  have root : locate arabicElement.unified = .ok arabicElement.unified := if_pos rfl
  have document : ofDocument (Xml.render arabicElement) = .ok ⟨0, 0, 0, 0, -30, 0⟩ := by
    rw [ofDocument_of_read (Xml.read_render (by decide +kernel) (by decide +kernel)) root, element]
  exact ⟨⟨json, (read_lease_transcodes _ _ (.inl json)).2.2.2⟩, document,
    (read_lease_transcodes _ _ (.inr document)).2.2.2⟩

end ServiceLease.Lease
