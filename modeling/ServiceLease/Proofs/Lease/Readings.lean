import ServiceLease.Lease.Markup
import ServiceLease.Proofs.Lease.Checked
import ServiceLease.Proofs.Value

/-! What the children of an element say together. A child counts if its tag is known and its text
is not blank; of the children that count, the last one under each tag gives the number, and the
first one without a number is what is reported. -/
namespace ServiceLease.Lease

/-- The lease of the numbers under the seven names: zero for what is missing, and the older name of
the last renewal where the other one has no number. -/
def ofNumbers (number? : String → Option Int) : Lease where
  renewalInterval := (number? "renewalIntervalInSecs").getD 0
  duration := (number? "durationInSecs").getD 0
  registration := (number? "registrationTimestamp").getD 0
  lastRenewal := ((number? "lastRenewalTimestamp").or (number? "renewalTimestamp")).getD 0
  eviction := (number? "evictionTimestamp").getD 0
  serviceUp := (number? "serviceUpTimestamp").getD 0

/-- Members in which every name gives its number are read as the lease of the numbers. -/
theorem ofMembers_eq_ofNumbers {number? : String → Option Int} {ms : Members}
    (found : ∀ name, (unwrap ms).find? name = (number? name).map .int) : ofMembers ms = .ok (ofNumbers number?) := by
  have each : effective ms = (ofNumbers number?).map .int := by
    refine Fields.ext_get fun f => ?_
    rw [effective, Fields.get_ofFn, Fields.get_map, wireValue?, found, found]
    cases f with
    | lastRenewal =>
      have names : Field.lastRenewal.wireName = "lastRenewalTimestamp" ∧ legacyName = "renewalTimestamp" := ⟨rfl, rfl⟩
      rw [if_pos rfl, names.1, names.2, Fields.get, ofNumbers]
      cases number? "lastRenewalTimestamp" with
      | some n => rfl
      | none => cases number? "renewalTimestamp" <;> rfl
    | _ =>
      rw [if_neg (by decide), Fields.get, ofNumbers, Field.wireName]
      generalize number? _ = n?
      cases n? <;> rfl
  rw [ofMembers_eq, each, ofValues_ints]

/-! Children that count. -/

theorem ne_rootName_of_mem_tags {tag : String} (known : tag ∈ tags) : tag ≠ rootName := by
  have apart : ∀ tag ∈ tags, tag ≠ rootName := by decide
  exact apart tag known

abbrev Reading := String × List Char

namespace Reading

def number? (r : Reading) : Option Int := Numeral.ofElementText r.2

def store (known : Members) (r : Reading) : Members :=
  match r.number? with
  | some n => known.put r.1 (.int n)
  | none => known

end Reading

def filled? (child : Xml.Element) : Option Reading :=
  if child.tag ∈ tags ∧ Text.trim Text.isBlank child.leadingText ≠ [] then
    some (child.tag, Text.trim Text.isBlank child.leadingText)
  else none

def filled (children : List Xml.Element) : List Reading := children.filterMap filled?

theorem mem_tags_of_filled {children : List Xml.Element} {r : Reading} (member : r ∈ filled children) : r.1 ∈ tags := by
  obtain ⟨child, -, given⟩ := List.mem_filterMap.1 member
  unfold filled? at given
  split at given
  · next counts =>
    cases given
    exact counts.1
  · cases given

/-- One child is read by what it says alone. -/
theorem reading?_eq (child : Xml.Element) :
    reading? child = match filled? child with
      | none => .ok none
      | some r => match r.number? with
        | some n => .ok (some (r.1, n))
        | none => .error (.badElementText r.1 r.2) := by
  rw [reading?, filled?]
  by_cases known : child.tag ∈ tags
  · rw [if_pos (List.contains_iff_mem.2 known)]
    cases text : Text.trim Text.isBlank child.leadingText with
    | nil => rw [if_neg (by simp)]
    | cons c rest =>
      rw [if_pos ⟨known, by simp⟩]
      cases number : Numeral.ofElementText (c :: rest) <;> simp only [Reading.number?, number]
  · have unknown : tags.contains child.tag ≠ true := fun listed => known (List.contains_iff_mem.1 listed)
    rw [if_neg unknown, if_neg fun counts => known counts.1]

/-- The loop stops at the first reading without a number, and otherwise stores them all. -/
theorem readings_eq (known : Members) (children : List Xml.Element) :
    readings known children = match (filled children).find? (·.number?.isNone) with
      | some r => .error (.badElementText r.1 r.2)
      | none => .ok ((filled children).foldl Reading.store known) := by
  induction children generalizing known with
  | nil => rfl
  | cons child rest ih =>
    rw [readings, reading?_eq, filled, List.filterMap_cons]
    cases filled? child with
    | none => exact ih known
    | some r =>
      simp only [List.find?_cons, List.foldl_cons, Reading.store]
      cases r.number? with
      | none => rfl
      | some n => exact ih _

/-! What is stored under a name. -/

/-- The number that is read last under a name. -/
def last? (rs : List Reading) (name : String) : Option Int := (rs.reverse.lookup name).bind Numeral.ofElementText

theorem lookup_store {r : Reading} (readable : r.number?.isSome) (known : Members) (name : String) :
    (Reading.store known r).lookup name = if name = r.1 then r.number?.map .int else known.lookup name := by
  obtain ⟨n, whole⟩ := Option.isSome_iff_exists.1 readable
  rw [Reading.store, whole]
  exact Members.lookup_put known r.1 (.int n) name

section

variable {rs : List Reading}

/-- The last reading with a name gives its number. -/
theorem last?_eq_some_iff {name : String} {n : Int} :
    last? rs name = some n ↔
      ∃ before r after, rs = before ++ r :: after ∧ r.1 = name ∧ r.number? = some n ∧
        ∀ later ∈ after, later.1 ≠ name := by
  rw [last?, Option.bind_eq_some_iff]
  constructor
  · rintro ⟨text, found, number⟩
    obtain ⟨before, after, split, other⟩ := lookup_reverse_eq_some_iff.1 found
    exact ⟨before, (name, text), after, split, rfl, number, other⟩
  · rintro ⟨before, ⟨_, text⟩, after, split, rfl, number, other⟩
    exact ⟨text, lookup_reverse_eq_some_iff.2 ⟨before, after, split, other⟩, number⟩

variable (readable : ∀ r ∈ rs, r.number?.isSome)

include readable

theorem last?_eq_none_iff {name : String} : last? rs name = none ↔ ∀ r ∈ rs, r.1 ≠ name := by
  rw [← lookup_reverse_eq_none_iff, last?]
  cases found : rs.reverse.lookup name with
  | none => simp
  | some text =>
    obtain ⟨before, after, split, -⟩ := lookup_reverse_eq_some_iff.1 found
    have member : (name, text) ∈ rs := by simp [split]
    have whole : Numeral.ofElementText text ≠ none := Option.isSome_iff_ne_none.1 (readable _ member)
    simpa using whole

theorem lookup_foldl_store (known : Members) (name : String) :
    (rs.foldl Reading.store known).lookup name = ((last? rs name).map .int).or (known.lookup name) := by
  induction rs generalizing known with
  | nil => rfl
  | cons r rest ih =>
    obtain ⟨first, others⟩ := List.forall_mem_cons.1 readable
    rw [List.foldl_cons, ih others, lookup_store first, last?, last?, List.reverse_cons, List.lookup_append]
    cases later : rest.reverse.lookup name with
    | some text =>
      have member : (name, text) ∈ rest := by
        obtain ⟨before, after, split, -⟩ := lookup_reverse_eq_some_iff.1 later
        simp [split]
      obtain ⟨n, whole⟩ := Option.isSome_iff_exists.1 (others _ member)
      have number : Numeral.ofElementText text = some n := whole
      simp [number]
    | none =>
      obtain ⟨tag, text⟩ := r
      rw [Option.none_or, lookup_cons_eq_ite]
      by_cases same : name = tag
      · obtain ⟨n, whole⟩ := Option.isSome_iff_exists.1 first
        have number : Numeral.ofElementText text = some n := whole
        simp [same, number, Reading.number?]
      · simp [same]

/-- What is stored is not opened. -/
theorem unwrap_foldl_store (known : ∀ r ∈ rs, r.1 ∈ tags) :
    unwrap (rs.foldl Reading.store []) = rs.foldl Reading.store [] := by
  have absent : rs.reverse.lookup rootName = none :=
    lookup_reverse_eq_none_iff.2 fun r member => ne_rootName_of_mem_tags (known r member)
  rw [unwrap, lookup_foldl_store readable, last?, absent]
  rfl

theorem ofMembers_foldl_store (known : ∀ r ∈ rs, r.1 ∈ tags) :
    ofMembers (rs.foldl Reading.store []) = .ok (ofNumbers (last? rs)) := by
  refine ofMembers_eq_ofNumbers fun name => ?_
  rw [unwrap_foldl_store readable known, Members.find?, lookup_foldl_store readable]
  cases last? rs name <;> rfl

end

/-- What the children say decides, and nothing else in the element. -/
theorem ofElement_eq (e : Xml.Element) :
    ofElement e = match (filled e.children).find? (·.number?.isNone) with
      | some r => .error (.badElementText r.1 r.2)
      | none => .ok (ofNumbers (last? (filled e.children))) := by
  rw [ofElement, readings_eq]
  cases first : (filled e.children).find? (·.number?.isNone) with
  | some r => rfl
  | none =>
    have readable : ∀ r ∈ filled e.children, r.number?.isSome := by
      intro r member
      have whole := List.find?_eq_none.1 first r member
      rwa [Option.isNone_iff_eq_none, ← ne_eq, ← Option.isSome_iff_ne_none] at whole
    exact ofMembers_foldl_store readable fun r member => mem_tags_of_filled member

theorem ofElement_eq_error_iff {e : Xml.Element} {failure : Failure} :
    ofElement e = .error failure ↔
      ∃ before r after, filled e.children = before ++ r :: after ∧ (∀ earlier ∈ before, earlier.number?.isSome) ∧
        r.number? = none ∧ failure = .badElementText r.1 r.2 := by
  rw [ofElement_eq]
  constructor
  · intro refused
    cases first : (filled e.children).find? (·.number?.isNone) with
    | none =>
      rw [first] at refused
      cases refused
    | some r =>
      rw [first] at refused
      cases refused
      obtain ⟨bad, before, after, split, earlier⟩ := List.find?_eq_some_iff_append.1 first
      exact ⟨before, r, after, split, by simpa using earlier, by simpa using bad, rfl⟩
  · rintro ⟨before, r, after, split, earlier, bad, rfl⟩
    have first : (filled e.children).find? (·.number?.isNone) = some r :=
      List.find?_eq_some_iff_append.2 ⟨by simpa using bad, before, after, split, by simpa using earlier⟩
    rw [first]

theorem ofElement_eq_ok_iff {e : Xml.Element} {l : Lease} :
    ofElement e = .ok l ↔
      (∀ r ∈ filled e.children, r.number?.isSome) ∧ l = ofNumbers (last? (filled e.children)) := by
  have whole : (∀ r ∈ filled e.children, r.number?.isSome) ↔
      (filled e.children).find? (·.number?.isNone) = none := by
    simp only [List.find?_eq_none, Option.isSome_iff_ne_none, Option.isNone_iff_eq_none, ne_eq]
  rw [ofElement_eq, whole]
  cases (filled e.children).find? (·.number?.isNone) with
  | some r => simp
  | none => simp [eq_comm]

/-- Of the children that count, the first one without a number is reported, even where its number
would not be used. If there is none, the last child under each name gives the number, and the
older name of the last renewal counts where no child has the other one. -/
theorem last_child_counts (e : Xml.Element) :
    let rs := filled e.children
    tags = ["renewalTimestamp", "renewalIntervalInSecs", "durationInSecs", "registrationTimestamp",
      "lastRenewalTimestamp", "evictionTimestamp", "serviceUpTimestamp"] ∧
    (∀ failure, ofElement e = .error failure ↔
      ∃ before r after, rs = before ++ r :: after ∧ (∀ earlier ∈ before, earlier.number?.isSome) ∧
        r.number? = none ∧ failure = .badElementText r.1 r.2) ∧
    (∀ l, ofElement e = .ok l ↔ (∀ r ∈ rs, r.number?.isSome) ∧ l = ofNumbers (last? rs)) ∧
    ∀ l, ofElement e = .ok l → ∀ name,
      (last? rs name = none ↔ ∀ r ∈ rs, r.1 ≠ name) ∧
      ∀ n, last? rs name = some n ↔
        ∃ before r after, rs = before ++ r :: after ∧ r.1 = name ∧ r.number? = some n ∧
          ∀ later ∈ after, later.1 ≠ name := by
  refine ⟨rfl, fun _ => ofElement_eq_error_iff, fun _ => ofElement_eq_ok_iff, fun l read name => ?_⟩
  have readable := (ofElement_eq_ok_iff.1 read).1
  exact ⟨last?_eq_none_iff readable, fun n => last?_eq_some_iff⟩

example : ofElement (.ofChildren rootName []
    [.ofText "durationInSecs" [] "7", .ofText "renewalTimestamp" [] " never ", .ofText "durationInSecs" [] "",
      .ofText "lastRenewalTimestamp" [] "5"]) = .error (.badElementText "renewalTimestamp" "never".toList) := by
  rfl

end ServiceLease.Lease
