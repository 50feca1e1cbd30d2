import ServiceLease.Proofs.Lease.RoundTrip

/-! The same numbers in both wire forms. An object with null where a number is missing and an
element with an empty child there are read as one lease. -/
namespace ServiceLease.Lease

namespace Given

def find? (entries : List Given) (name : String) : Option Int := (entries.lookup name).join

def value (g : Given) : Value := g.2.elim .null .int

def members (entries : List Given) : Members := entries.map fun g => (g.1, g.value)

def toValue (wrapped : Bool) (entries : List Given) : Value :=
  if wrapped then .object [(rootName, .object (members entries))] else .object (members entries)

def lease (entries : List Given) : Lease := ofNumbers (find? entries)

theorem find?_cons_same (g : Given) (rest : List Given) : find? (g :: rest) g.1 = g.2 := by
  rw [find?, List.lookup_cons_self]
  rfl

theorem find?_cons_other {g : Given} {name : String} (other : name ≠ g.1) (rest : List Given) :
    find? (g :: rest) name = find? rest name := by
  rw [find?, find?, List.lookup_cons, beq_eq_false_iff_ne.2 other]

theorem members_find? (entries : List Given) (name : String) :
    (members entries).find? name = (find? entries name).map .int := by
  induction entries with
  | nil => rfl
  | cons g rest ih =>
    by_cases same : name = g.1
    · subst same
      rw [find?_cons_same, members, List.map_cons, Members.find?, List.lookup_cons_self, value]
      cases g.2 <;> rfl
    · rw [find?_cons_other same, ← ih, members, members, Members.find?, Members.find?, List.map_cons, List.lookup_cons,
        beq_eq_false_iff_ne.2 same]

/-! Entries with known names. -/

section

variable {entries : List Given} (known : ∀ g ∈ entries, g.1 ∈ tags)

include known

theorem unwrap_members_known : unwrap (members entries) = members entries := by
  have absent : (members entries).lookup rootName = none := by
    rw [List.lookup_eq_none_iff]
    intro m member
    obtain ⟨g, inside, rfl⟩ := List.mem_map.1 member
    exact bne_iff_ne.2 (Ne.symm (ne_rootName_of_mem_tags (known g inside)))
  rw [unwrap, absent]

/-- The object is read as the lease of its numbers, wrapped or not. -/
theorem ofValue_toValue_known (wrapped : Bool) : ofValue (toValue wrapped entries) = .ok (lease entries) := by
  have inner : unwrap (members entries) = members entries := unwrap_members_known known
  cases wrapped with
  | false =>
    refine ofMembers_eq_ofNumbers fun name => ?_
    rw [inner, members_find?]
  | true =>
    have opened : unwrap [(rootName, .object (members entries))] = members entries := rfl
    refine ofMembers_eq_ofNumbers fun name => ?_
    rw [opened, members_find?]

end

/-! Both forms. -/

section

variable {entries : List Given} (readable : ∀ g ∈ entries, g.Readable) (once : (entries.map Prod.fst).Nodup)

include readable

theorem plain_value (levels : Nat) {g : Given} (member : g ∈ entries) : Json.plain levels g.value = true := by
  have fits := (readable g member).fits
  obtain ⟨name, n?⟩ := g
  cases n? with
  | none => rfl
  | some n => exact fits n rfl

theorem membersPlain_members (levels : Nat) : Json.membersPlain levels (members entries) = true := by
  have names : ∀ name ∈ tags, Json.plainText name = true := by decide
  induction entries with
  | nil => rfl
  | cons g rest ih =>
    have name := names g.1 (readable g List.mem_cons_self).known
    have tail := ih fun other member => readable other (List.mem_cons_of_mem _ member)
    rw [members, List.map_cons, Json.membersPlain, name, plain_value readable levels List.mem_cons_self, Bool.true_and,
      Bool.true_and]
    exact tail

include once

theorem plain_toValue_given (levels : Nat) (wrapped : Bool) :
    Json.plain (levels + 2) (toValue wrapped entries) = true := by
  have names : (members entries).map Prod.fst = entries.map Prod.fst := by
    rw [members, List.map_map]
    rfl
  have inner (levels : Nat) : Json.plain (levels + 1) (.object (members entries)) = true := by
    rw [Json.plain, membersPlain_members readable, names, decide_eq_true once]
    rfl
  have root : Json.plainText rootName = true := by decide
  cases wrapped with
  | false => exact inner (levels + 1)
  | true =>
    have inside : levels + 2 - 1 = levels + 1 := rfl
    rw [toValue, if_pos rfl, Json.plain, Json.membersPlain, Json.membersPlain, inside, inner levels, root]
    rfl

theorem ofElement_eq_lease {e : Xml.Element} (lists : Lists e entries) : ofElement e = .ok (lease entries) :=
  ofElement_of_lists readable lists once

end

end Given

/-- An element that can be written stands in the root that is read where it stood in the one that
was written. -/
theorem standsIn_unified {entries : List Given} {root : Xml.Element} (stands : StandsIn (listing entries) root) :
    StandsIn (listing entries) root.unified := by
  cases stands with
  | root tag =>
    rw [listing_unified]
    exact .root tag
  | @child _ before after other children tag first =>
    have moved : root.unified.children =
        before.map Xml.Element.unified ++ listing entries :: after.map Xml.Element.unified := by
      rw [Xml.Element.children_unified, children, List.map_append, List.map_cons, listing_unified]
    refine .child other moved tag ?_
    intro earlier member
    obtain ⟨e, inside, rfl⟩ := List.mem_map.1 member
    exact first e inside

/-- Numbers under the seven names, each name at most once and in any order, give the same lease
from JSON and from a document. It does not matter how the two are spelled, whether the object
is wrapped, or which document the element is the root or the first such child of. -/
theorem readers_agree (entries : List Given) (known : ∀ g ∈ entries, g.1 ∈ tags)
    (once : (entries.map Prod.fst).Nodup)
    (short : ∀ g ∈ entries, ∀ n, g.2 = some n → Decimal.digitCount n ≤ Decimal.digitLimit) :
    (∀ wrapped text, Json.read text = .ok (Given.toValue wrapped entries) → ofJson text = .ok (Given.lease entries)) ∧
    (∀ text root e, Xml.read text = .ok root → StandsIn e root → Lists e entries →
      ofDocument text = .ok (Given.lease entries)) ∧
    (∀ wrapped, ∃ text, Json.render? (Given.toValue wrapped entries) = some text ∧
      ofJson text = .ok (Given.lease entries)) ∧
    ∀ root : Xml.Element, root.plain = true → root.legal = true → StandsIn (listing entries) root →
      ofDocument (Xml.render root) = .ok (Given.lease entries) := by
  have readable : ∀ g ∈ entries, g.Readable := by
    intro g member
    exact ⟨known g member, fun n given => decide_eq_true (short g member n given)⟩
  have json (wrapped : Bool) (text : String) (read : Json.read text = .ok (Given.toValue wrapped entries)) :
      ofJson text = .ok (Given.lease entries) := by
    rw [ofJson_of_read read]
    exact Given.ofValue_toValue_known known wrapped
  have document (text : String) (root e : Xml.Element) (read : Xml.read text = .ok root) (stands : StandsIn e root)
      (lists : Lists e entries) : ofDocument text = .ok (Given.lease entries) := by
    rw [ofDocument_of_read read (locate_of_standsIn stands)]
    exact Given.ofElement_eq_lease readable once lists
  refine ⟨json, document, ?_, ?_⟩
  · intro wrapped
    have plain : Json.plain Json.outermost (Given.toValue wrapped entries) = true :=
      Given.plain_toValue_given readable once 992 wrapped
    exact ⟨_, Json.render?_of_plain plain, json wrapped _ (Json.read_write plain)⟩
  · intro root plain legal stands
    exact document _ _ _ (Xml.read_render plain legal) (standsIn_unified stands) (listing_lists entries)

/-- The least integer that has a text. -/
def longest : Int := 1 - Decimal.beyond Decimal.digitLimit

def sparse : List Given :=
  [("renewalTimestamp", some (-5)), ("evictionTimestamp", none), ("lastRenewalTimestamp", none),
    ("durationInSecs", some longest)]

def elsewhere : Xml.Element :=
  .ofChildren "instance" [⟨.plain "id", "<7>"⟩]
    [.ofText "durationInSecs" [] "1\r\n", listing sparse, listing [("durationInSecs", some 2)]]

theorem readers_agree_sparse :
    (∀ g ∈ sparse, g.1 ∈ tags) ∧ (sparse.map Prod.fst).Nodup ∧
    (∀ g ∈ sparse, ∀ n, g.2 = some n → Decimal.digitCount n ≤ Decimal.digitLimit) ∧
    (∃ text, Json.render? (Given.toValue true sparse) = some text ∧ ofJson text = .ok ⟨0, longest, 0, -5, 0, 0⟩) ∧
    ofDocument (Xml.render elsewhere) = .ok ⟨0, longest, 0, -5, 0, 0⟩ := by
  have names : sparse.map Prod.fst =
      ["renewalTimestamp", "evictionTimestamp", "lastRenewalTimestamp", "durationInSecs"] := rfl
  have known : ∀ g ∈ sparse, g.1 ∈ tags := by
    have all : ∀ name ∈ sparse.map Prod.fst, name ∈ tags := by
      rw [names]
      decide
    intro g member
    exact all g.1 (List.mem_map_of_mem member)
  have once : (sparse.map Prod.fst).Nodup := by
    rw [names]
    decide
  have short : ∀ g ∈ sparse, ∀ n, g.2 = some n → Decimal.digitCount n ≤ Decimal.digitLimit := by
    have least : Decimal.fits longest = true := by
      have large : 10 ≤ Decimal.beyond Decimal.digitLimit := Decimal.ten_le_beyond (by decide)
      rw [Decimal.fits_iff, longest]
      omega
    have five : Decimal.fits (-5) = true := by decide
    have all : ∀ g ∈ sparse, ∀ n, g.2 = some n → Decimal.fits n = true := by
      simp [sparse, least, five]
    intro g member n same
    exact of_decide_eq_true (all g member n same)
  have lease : Given.lease sparse = ⟨0, longest, 0, -5, 0, 0⟩ := rfl
  obtain ⟨-, -, json, document⟩ := readers_agree sparse known once short
  rw [lease] at json document
  have later : ∀ g ∈ ([("durationInSecs", some 2)] : List Given), g.1 ∈ tags := by decide
  have stands : StandsIn (listing sparse) elsewhere := by
    have children : elsewhere.children =
        [.ofText "durationInSecs" [] "1\r\n"] ++ listing sparse :: [listing [("durationInSecs", some 2)]] :=
      children_ofChildren _ _ _
    exact .child (by decide) children rfl (List.forall_mem_singleton.2 (by decide))
  refine ⟨known, once, short, json true, document elsewhere ?_ ?_ stands⟩
  · rw [elsewhere, Xml.Element.plain_ofChildren, List.all_cons, List.all_cons, List.all_cons, listing_plain known,
      listing_plain later]
    decide
  · rw [elsewhere, Xml.Element.legal_ofChildren, List.all_cons, List.all_cons, List.all_cons, listing_legal,
      listing_legal]
    decide

end ServiceLease.Lease
