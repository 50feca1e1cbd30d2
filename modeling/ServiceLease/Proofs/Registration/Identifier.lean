import ServiceLease.Proofs.Number.Decimal
import ServiceLease.Proofs.Text.Case
import ServiceLease.Registration.Document

/-! What an instance is identified by. Its host may have colons in it, so that the text of an
identifier comes apart from the end only: neither the digits of a port nor a name in upper case
have one. -/
namespace ServiceLease.Registration

/-- What stands after the last separator is apart from what stands before it. -/
theorem append_separator_inj {α : Type} {separator : α} {front other : List α} {tail rest : List α}
    (first : separator ∉ tail) (second : separator ∉ rest) :
    front ++ separator :: tail = other ++ separator :: rest ↔ front = other ∧ tail = rest := by
  have shorter {more tail rest : List α} (none : separator ∉ tail)
      (same : separator :: tail = more ++ separator :: rest) : more = [] ∧ tail = rest := by
    cases more with
    | nil => exact ⟨rfl, (List.cons.inj same).2⟩
    | cons c more =>
      obtain ⟨-, split⟩ := List.cons.inj same
      exact absurd (by rw [split]; simp) none
  constructor
  · intro same
    rcases List.append_eq_append_iff.1 same with ⟨more, rfl, split⟩ | ⟨more, rfl, split⟩
    · obtain ⟨rfl, rfl⟩ := shorter first split
      exact ⟨(List.append_nil front).symm, rfl⟩
    · obtain ⟨rfl, rfl⟩ := shorter second split
      exact ⟨List.append_nil other, rfl⟩
  · rintro ⟨rfl, rfl⟩
    rfl

theorem colon_not_mem_digits (n : Int) : ':' ∉ Decimal.digits n := by
  intro member
  rcases Decimal.mem_digits member with same | digit
  · exact absurd same (by decide)
  · exact absurd digit (by decide)

theorem idText_toList (service : Service) :
    (idText service).toList =
      (service.host.toList ++ ':' :: (serviceKey service).toList) ++ ':' :: Decimal.digits service.port := by
  simp [idText, Decimal.text_toList]

theorem idText_eq_iff {a b : Service} (first : ':' ∉ a.name.toList) (second : ':' ∉ b.name.toList) :
    idText a = idText b ↔ a.host = b.host ∧ serviceKey a = serviceKey b ∧ a.port = b.port := by
  have key : ':' ∉ (serviceKey a).toList := Text.colon_not_mem_upper first
  have otherKey : ':' ∉ (serviceKey b).toList := Text.colon_not_mem_upper second
  have port : Decimal.digits a.port = Decimal.digits b.port ↔ a.port = b.port :=
    ⟨Numeral.digits_injective, congrArg Decimal.digits⟩
  rw [← String.toList_inj, idText_toList, idText_toList,
    append_separator_inj (colon_not_mem_digits a.port) (colon_not_mem_digits b.port),
    append_separator_inj key otherKey, String.toList_inj, String.toList_inj, port, and_assoc]

/-- Two instances of services without a colon in their names have one identifier exactly if they have
the same host, the same name up to case, and the same port. -/
theorem instanceId_eq_iff (a b : Service) (first : ':' ∉ a.name.toList) (second : ':' ∉ b.name.toList)
    (port : Decimal.digitCount a.port ≤ Decimal.digitLimit) (other : Decimal.digitCount b.port ≤ Decimal.digitLimit) :
    (∃ id, instanceId a = .ok id) ∧ (∃ id, instanceId b = .ok id) ∧
    (instanceId a = instanceId b ↔
      a.host = b.host ∧ Text.upper a.name = Text.upper b.name ∧ a.port = b.port) := by
  have made : instanceId a = .ok (idText a) := if_pos (decide_eq_true port)
  have alsoMade : instanceId b = .ok (idText b) := if_pos (decide_eq_true other)
  refine ⟨⟨_, made⟩, ⟨_, alsoMade⟩, ?_⟩
  rw [made, alsoMade, Except.ok.injEq, idText_eq_iff first second]
  rfl

def serviceAt (host name : String) (port : Int) : Service :=
  ⟨name, "/health", "/info", port, 443, host, "MyOwn", false, .standard⟩

/-- One name in two spellings, and a host that ends like the one identifier starts. -/
theorem instanceId_eq_iff_spellings :
    instanceId (serviceAt "::1" "straße" (-80)) = instanceId (serviceAt "::1" "STRASSE" (-80)) ∧
    instanceId (serviceAt "::1" "straße" (-80)) ≠ instanceId (serviceAt "::1:STRASSE" "" (-80)) := by
  have sharp : ':' ∉ (serviceAt "::1" "straße" (-80)).name.toList := by decide
  have plain : ':' ∉ (serviceAt "::1" "STRASSE" (-80)).name.toList := by decide
  have empty : ':' ∉ (serviceAt "::1:STRASSE" "" (-80)).name.toList := by decide
  have short : Decimal.digitCount (-80) ≤ Decimal.digitLimit := by decide
  obtain ⟨-, -, same⟩ := instanceId_eq_iff (serviceAt "::1" "straße" (-80)) _ sharp plain short short
  obtain ⟨-, -, other⟩ := instanceId_eq_iff (serviceAt "::1" "straße" (-80)) _ sharp empty short short
  have name : Text.upper "straße" = Text.upper "STRASSE" := by decide +kernel
  refine ⟨same.2 ⟨rfl, name, rfl⟩, fun equal => ?_⟩
  exact absurd (other.1 equal).1 (by decide)

end ServiceLease.Registration
