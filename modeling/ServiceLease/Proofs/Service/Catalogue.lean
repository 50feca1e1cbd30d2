import ServiceLease.Proofs.Failure
import ServiceLease.Proofs.Service.Config
import ServiceLease.Service.Catalogue

/-! Catalogues that are loaded. All services of one come from one document, so that every
integer in them is within the limit of the document. -/
namespace ServiceLease.Catalogue

/-- The entries of a value that can be written can be written. -/
theorem writable_of_mem_entries {v w : Value} {vs : List Value} (written : Json.writable v = true)
    (listed : entries v = .ok vs) (member : w ∈ vs) : Json.writable w = true := by
  cases v with
  | list items =>
    cases listed
    exact (Json.itemsWritable_iff _).1 written w member
  | object members =>
    cases listed
    obtain ⟨m, -, rfl⟩ := List.mem_map.1 member
    rfl
  | text s =>
    cases listed
    obtain ⟨c, -, rfl⟩ := List.mem_map.1 member
    rfl
  | broken t =>
    cases listed
    obtain ⟨n, -, rfl⟩ := List.mem_map.1 member
    exact Json.writable_ofCodes [n]
  | _ => cases listed

theorem writable_of_mem_services {v : Value} {all : List Service} (written : Json.writable v = true)
    (read : services v = .ok all) {s : Service} (member : s ∈ all) : s.Writable := by
  obtain ⟨vs, listed, made⟩ := bind_eq_ok_iff.1 read
  obtain ⟨w, inside, accepted⟩ := exists_of_mem_mapM made member
  exact Service.writable_of_ofValue (writable_of_mem_entries written listed inside) accepted

theorem writable_of_document {octets : List UInt8} {v : Value} (read : document octets = .ok v) :
    Json.writable v = true := by
  obtain ⟨chars, -, parsed⟩ := bind_eq_ok_iff.1 read
  exact Json.writable_of_readIn (mapError_eq_ok_iff.1 parsed)

/-- Loading gives all services of the document with one notice, or a failure without any. -/
theorem load_eq (path : String) (octets : List UInt8) :
    load path (some octets) () =
      match (do services (← document octets) : Except Failure (List Service)) with
      | .ok all => ⟨.ok all, (), [.servicesLoaded all.length path]⟩
      | .error e => ⟨.error e, (), []⟩ := by
  unfold load
  dsimp only
  cases (do services (← document octets) : Except Failure (List Service)) with
  | ok all => rfl
  | error e => rfl

/-- Whether loading succeeds shows in the document alone. -/
theorem load_eq_ok_iff {path : String} {octets : List UInt8} {all : List Service} :
    (load path (some octets) ()).result = .ok all ↔ ∃ v, document octets = .ok v ∧ services v = .ok all := by
  rw [← bind_eq_ok_iff, load_eq]
  cases (do services (← document octets) : Except Failure (List Service)) <;> simp

/-- Octets that are text, a text that is JSON, and JSON that describes services. -/
theorem load_of_read (path : String) {octets : List UInt8} {chars : List Char} {v : Value} {all : List Service}
    (decoded : Text.Utf8.decode octets = .ok chars)
    (parsed : Json.readChars outermost (Text.unifyLineEnds chars) = .ok v)
    (made : services v = .ok all) : (load path (some octets) ()).result = .ok all := by
  refine load_eq_ok_iff.2 ⟨v, ?_, made⟩
  refine bind_eq_ok_iff.2 ⟨chars, mapError_eq_ok_iff.2 decoded, ?_⟩
  refine mapError_eq_ok_iff.2 (mapError_eq_ok_iff.2 ?_)
  rw [String.toList_ofList, parsed]

/-- Every integer of a service that was loaded has a text. -/
theorem writable_of_mem_load {path : String} {octets : List UInt8} {all : List Service}
    (loaded : (load path (some octets) ()).result = .ok all) {s : Service} (member : s ∈ all) : s.Writable := by
  obtain ⟨v, read, made⟩ := load_eq_ok_iff.1 loaded
  exact writable_of_mem_services (writable_of_document read) made member

end ServiceLease.Catalogue
