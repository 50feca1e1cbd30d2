import ServiceLease.Proofs.Service.Catalogue

/-! Which documents are catalogues. A list is one if each of its items describes a service, and is
refused for the first that does not. Of all other documents only the empty object and the
empty text are let through, as catalogues without services. -/
namespace ServiceLease

namespace Service

def notDescribed : Failure := .rejected .service [⟨[], .notRecord .service⟩]

theorem object_of_ofValue {v : Value} {s : Service} (accepted : ofValue v = .ok s) :
    ∃ given : Members, v = .object given := by
  cases v with
  | object given => exact ⟨given, rfl⟩
  | _ => cases accepted

/-- A value is refused with a list of issues and in no other way. -/
theorem rejected_of_ofValue {v : Value} {e : Failure} (refused : ofValue v = .error e) :
    ∃ issues, e = .rejected .service issues := by
  unfold ofValue at refused
  split at refused
  · cases refused
  · next issues _ =>
    cases refused
    exact ⟨issues, rfl⟩

theorem objects_of_accepted {items : List Value} {all : List Service} (accepted : items.map ofValue = all.map .ok) :
    ∃ objects : List Members, items = objects.map .object := by
  induction items generalizing all with
  | nil => exact ⟨[], rfl⟩
  | cons v items ih =>
    cases all with
    | nil => cases accepted
    | cons s all =>
      obtain ⟨first, rest⟩ := List.cons.inj accepted
      obtain ⟨given, rfl⟩ := object_of_ofValue first
      obtain ⟨objects, rfl⟩ := ih rest
      exact ⟨given :: objects, rfl⟩

end Service

namespace Catalogue

theorem load_of_document (path : String) {octets : List UInt8} {v : Value} (read : document octets = .ok v) :
    load path (some octets) () =
      match services v with
      | .ok all => ⟨.ok all, (), [.servicesLoaded all.length path]⟩
      | .error e => ⟨.error e, (), []⟩ := by
  have made : (do services (← document octets)) = services v := by
    rw [read]
    rfl
  cases outcome : services v <;> simp only [load_eq, made, outcome]

theorem result_of_document (path : String) {octets : List UInt8} {v : Value} (read : document octets = .ok v) :
    (load path (some octets) ()).result = services v := by
  rw [load_of_document path read]
  cases services v <;> rfl

/-! Lists. -/

theorem services_list (items : List Value) : services (.list items) = items.mapM Service.ofValue := rfl

/-- A list loads as a whole or not at all. It is loaded exactly if each of its items describes a
service; then the services are those of the items, in their order, and their number is reported.
Otherwise the issues are those of the first item that is refused, and nothing is reported. -/
theorem load_list (path : String) (octets : List UInt8) (items : List Value)
    (read : document octets = .ok (.list items)) :
    let report := load path (some octets) ()
    ((∃ all, report.result = .ok all) ↔ ∀ v ∈ items, ∃ s, Service.ofValue v = .ok s) ∧
    (∀ all, report.result = .ok all →
      all.length = items.length ∧
      (∀ (i : Nat) (v : Value), items[i]? = some v → ∃ s, all[i]? = some s ∧ Service.ofValue v = .ok s) ∧
      ∃ notice, report.notices = [notice] ∧ notice.severity = .info ∧
        notice.text? = some (toString items.length ++ " Services aus " ++ path ++ " geladen.")) ∧
    ∀ e, report.result = .error e →
      report.notices = [] ∧
      ∃ before v after issues, items = before ++ v :: after ∧ (∀ w ∈ before, ∃ s, Service.ofValue w = .ok s) ∧
        Service.ofValue v = .error e ∧ e = .rejected .service issues := by
  intro report
  have loaded : report = _ := load_of_document path read
  have result : report.result = items.mapM Service.ofValue := result_of_document path read
  rw [services_list] at loaded
  refine ⟨?_, ?_, ?_⟩
  · rw [result]
    exact exists_mapM_iff
  · intro all done
    rw [result] at done
    rw [done] at loaded
    have length := length_of_mapM done
    refine ⟨length, fun i v found => getElem?_of_mapM done found, .servicesLoaded all.length path, ?_, rfl, ?_⟩
    · rw [loaded]
    · rw [← length]
      rfl
  · intro e refused
    rw [result] at refused
    rw [refused] at loaded
    obtain ⟨before, v, after, same, earlier, stopped⟩ := mapM_eq_error_iff.1 refused
    obtain ⟨issues, rejected⟩ := Service.rejected_of_ofValue stopped
    refine ⟨?_, before, v, after, issues, same, earlier, stopped, rejected⟩
    rw [loaded]

def mixedCatalogue : List UInt8 :=
  ["[\x7b\"serviceName\": \"a\", ", "\"hostName\": \"b\", ", "\"healthEndpointPath\": \"\", ",
    "\"infoEndpointPath\": \"\", ", "\"httpPort\": \" +8_0\"\x7d,\r\n",
    "\x7b\"leaseInfo\": [], \"httpPort\": 0.5\x7d, 7]"].flatMap (·.toUTF8.data.toList)

def mixedIssues : List Issue :=
  [⟨["serviceName"], .missing⟩, ⟨["healthEndpointPath"], .missing⟩, ⟨["infoEndpointPath"], .missing⟩,
    ⟨["httpPort"], .fractional⟩, ⟨["hostName"], .missing⟩, ⟨["leaseInfo"], .notRecord .settings⟩]

def items? : Value → Option (List Value)
  | .list items => some items
  | _ => none

theorem list_of_items? {v : Value} {items : List Value} (found : items? v = some items) : v = .list items := by
  cases v with
  | list _ => exact congrArg Value.list (Option.some.inj found)
  | _ => cases found

theorem load_list_mixed :
    ∃ items, document mixedCatalogue = .ok (.list items) ∧ items.length = 3 ∧
      (load "services.json" (some mixedCatalogue) ()).result = .error (.rejected .service mixedIssues) ∧
      (load "services.json" (some mixedCatalogue) ()).notices = [] := by
  have evaluated : (((document mixedCatalogue).toOption.bind items?).map fun items => items.map Service.check) =
      some [.valid ⟨"a", "", "", 80, 443, "b", "MyOwn", false, .standard⟩, .invalid mixedIssues,
        .invalid [⟨[], .notRecord .service⟩]] := by
    decide +kernel
  obtain ⟨items, found, checks⟩ := Option.map_eq_some_iff.1 evaluated
  obtain ⟨v, parsed, listed⟩ := Option.bind_eq_some_iff.1 found
  obtain rfl := list_of_items? listed
  have read := toOption_eq_some_iff.1 parsed
  obtain ⟨a, b, c, rfl⟩ : ∃ a b c, items = [a, b, c] := by
    rcases items with _ | ⟨a, _ | ⟨b, _ | ⟨c, _ | ⟨d, rest⟩⟩⟩⟩ <;> simp at checks
    exact ⟨a, b, c, rfl⟩
  simp only [List.map_cons, List.map_nil, List.cons.injEq, and_true] at checks
  obtain ⟨first, second, -⟩ := checks
  have passed : ∃ s, Service.ofValue a = .ok s := ⟨_, by rw [Service.ofValue, first]⟩
  have stopped : Service.ofValue b = .error (.rejected .service mixedIssues) := by rw [Service.ofValue, second]
  obtain ⟨whole, -, refused⟩ := load_list "services.json" mixedCatalogue [a, b, c] read
  cases result : (load "services.json" (some mixedCatalogue) ()).result with
  | ok all =>
    obtain ⟨s, accepted⟩ := whole.1 ⟨all, result⟩ b (by simp)
    rw [stopped] at accepted
    cases accepted
  | error e =>
    obtain ⟨silent, before, v, after, issues, same, earlier, last, rfl⟩ := refused e result
    refine ⟨[a, b, c], read, rfl, ?_, silent⟩
    rcases before with _ | ⟨x, _ | ⟨y, more⟩⟩
    · cases same
      obtain ⟨s, accepted⟩ := passed
      rw [last] at accepted
      cases accepted
    · cases same
      rw [stopped] at last
      cases last
      rfl
    · obtain ⟨-, rfl, -⟩ : a = x ∧ b = y ∧ [c] = more ++ v :: after := by simpa using same
      obtain ⟨s, accepted⟩ := earlier b (by simp)
      rw [stopped] at accepted
      cases accepted

/-! Other documents. -/

/-- Why a document that is no list is no catalogue. -/
def misshapen? : Value → Option Failure
  | .list _ => none
  | .object given => if given.isEmpty then none else some Service.notDescribed
  | .text s => if s = "" then none else some Service.notDescribed
  | .broken _ => some Service.notDescribed
  | v => some (.notIterable v.kind)

/-- None of the texts that stand for the parts of an object or of a text describes a service. -/
theorem mapM_texts {parts : List Value} (texts : ∀ v ∈ parts, v.kind = .text) :
    parts.mapM Service.ofValue = if parts.isEmpty then .ok [] else .error Service.notDescribed := by
  cases parts with
  | nil => rfl
  | cons first rest =>
    have text : first.kind = .text := texts first List.mem_cons_self
    have refused : Service.ofValue first = .error Service.notDescribed := by
      cases first with
      | object given => cases text
      | _ => rfl
    rw [List.mapM_cons, refused]
    rfl

theorem services_other {v : Value} (other : v.kind ≠ .list) :
    services v = match misshapen? v with
      | none => .ok []
      | some e => .error e := by
  cases v with
  | list items => exact absurd rfl other
  | object given =>
    have parts : services (.object given) = (given.map fun m => .text m.1).mapM Service.ofValue := rfl
    rw [parts, mapM_texts (List.forall_mem_map.2 fun _ _ => rfl), List.isEmpty_map, misshapen?]
    cases given.isEmpty <;> rfl
  | text s =>
    have parts : services (.text s) = (s.toList.map fun c => .text (String.singleton c)).mapM Service.ofValue := rfl
    have empty : s.toList.isEmpty = true ↔ s = "" := by simp
    rw [parts, mapM_texts (List.forall_mem_map.2 fun _ _ => rfl), List.isEmpty_map, misshapen?]
    by_cases none : s = ""
    · simp [none]
    · simp [none, empty]
  | broken t =>
    have parts : services (.broken t) = (t.codes.map fun n => .ofCodes [n]).mapM Service.ofValue := rfl
    have some : t.codes ≠ [] := fun none => by
      have unpaired := t.unpaired
      rw [none] at unpaired
      cases unpaired
    rw [parts, mapM_texts (List.forall_mem_map.2 fun n _ => Value.kind_ofCodes [n]), List.isEmpty_map,
      if_neg (by simpa using some), misshapen?]
  | _ => rfl

theorem misshapen?_eq_none_iff {v : Value} (other : v.kind ≠ .list) :
    misshapen? v = none ↔ v = .object [] ∨ v = .text "" := by
  cases v with
  | list items => exact absurd rfl other
  | object given => cases given <;> simp [misshapen?]
  | text s => simp [misshapen?]
  | _ => simp [misshapen?]

/-- What a document is if it is let through. -/
theorem services_eq_ok_iff {v : Value} {all : List Service} :
    services v = .ok all ↔
      (∃ objects : List Members, v = .list (objects.map .object) ∧
        objects.map (fun given => Service.ofValue (.object given)) = all.map .ok) ∨
      ((v = .object [] ∨ v = .text "") ∧ all = []) := by
  constructor
  · intro made
    by_cases list : v.kind = .list
    · obtain ⟨items, rfl⟩ : ∃ items, v = .list items := by
        cases v with
        | list items => exact ⟨items, rfl⟩
        | _ => cases list
      rw [services_list, mapM_eq_ok_iff] at made
      obtain ⟨objects, rfl⟩ := Service.objects_of_accepted made
      rw [List.map_map] at made
      exact .inl ⟨objects, rfl, made⟩
    · rw [services_other list] at made
      cases shape : misshapen? v with
      | some e =>
        rw [shape] at made
        cases made
      | none =>
        rw [shape] at made
        cases made
        exact .inr ⟨(misshapen?_eq_none_iff list).1 shape, rfl⟩
  · rintro (⟨objects, rfl, made⟩ | ⟨rfl | rfl, rfl⟩)
    · rw [services_list, mapM_eq_ok_iff, List.map_map]
      exact made
    · rfl
    · rfl

/-- A file loads exactly if it holds a list of objects that each describe a service, or else the
empty object or the empty text. The two are taken for catalogues without services; every other
document that is no list is refused and nothing is reported. -/
theorem loaded_document_iff (path : String) (octets : List UInt8) (all : List Service) :
    ((load path (some octets) ()).result = .ok all ↔
      (∃ objects : List Members, document octets = .ok (.list (objects.map .object)) ∧
        objects.map (fun given => Service.ofValue (.object given)) = all.map .ok) ∨
      ((document octets = .ok (.object []) ∨ document octets = .ok (.text "")) ∧ all = [])) ∧
    ∀ v, document octets = .ok v → v.kind ≠ .list → v ≠ .object [] → v ≠ .text "" →
      ∃ e, misshapen? v = some e ∧ load path (some octets) () = ⟨.error e, (), []⟩ := by
  constructor
  · rw [load_eq_ok_iff]
    constructor
    · rintro ⟨v, read, made⟩
      rcases services_eq_ok_iff.1 made with ⟨objects, rfl, each⟩ | ⟨rfl | rfl, rfl⟩
      · exact .inl ⟨objects, read, each⟩
      · exact .inr ⟨.inl read, rfl⟩
      · exact .inr ⟨.inr read, rfl⟩
    · rintro (⟨objects, read, each⟩ | ⟨read | read, rfl⟩)
      · exact ⟨_, read, services_eq_ok_iff.2 (.inl ⟨objects, rfl, each⟩)⟩
      · exact ⟨_, read, rfl⟩
      · exact ⟨_, read, rfl⟩
  · intro v read list object text
    cases shape : misshapen? v with
    | none => exact absurd ((misshapen?_eq_none_iff list).1 shape) (by simp [object, text])
    | some e =>
      refine ⟨e, rfl, ?_⟩
      rw [load_of_document path read, services_other list, shape]

def emptyObject : List UInt8 := "\x7b\x7d".toUTF8.data.toList

/-- It holds no list and is loaded all the same, with a notice of zero services. -/
theorem empty_object_loads :
    document emptyObject = .ok (.object []) ∧
    load "services.json" (some emptyObject) () = ⟨.ok [], (), [.servicesLoaded 0 "services.json"]⟩ ∧
    ¬ ∀ (octets : List UInt8) (all : List Service), (load "services.json" (some octets) ()).result = .ok all →
      ∃ items, document octets = .ok (.list items) := by
  have read : document emptyObject = .ok (.object []) := rfl
  have loaded : load "services.json" (some emptyObject) () = ⟨.ok [], (), [.servicesLoaded 0 "services.json"]⟩ :=
    load_of_document "services.json" read
  refine ⟨read, loaded, fun listed => ?_⟩
  obtain ⟨items, other⟩ := listed emptyObject [] (by rw [loaded])
  rw [read] at other
  cases other

end Catalogue

end ServiceLease
