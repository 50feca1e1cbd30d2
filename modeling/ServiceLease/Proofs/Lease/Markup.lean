import ServiceLease.Proofs.Lease.Readings
import ServiceLease.Proofs.Number.Decimal
import ServiceLease.Proofs.Text.Line
import ServiceLease.Proofs.Value
import ServiceLease.Proofs.Xml.Written

/-! What a reader takes from an element. Each child with a known tag gives its number, or nothing
if it is empty; the element itself is the root of a document or a child of it. -/
namespace ServiceLease.Lease

theorem leadingText_ofText (name : String) (attributes : List Xml.Attribute) (s : String) :
    (Xml.Element.ofText name attributes s).leadingText = s.toList := by
  rw [Xml.Element.leadingText, Xml.Element.ofText, Xml.Node.ofText]
  induction s.toList with
  | nil => rfl
  | cons c rest ih => rw [List.map_cons, Xml.Node.leadingText, ih]

theorem children_ofChildren (name : String) (attributes : List Xml.Attribute) (children : List Xml.Element) :
    (Xml.Element.ofChildren name attributes children).children = children := by
  rw [Xml.Element.children, Xml.Element.ofChildren, List.filterMap_map]
  exact List.filterMap_some

/-! Digits in documents. -/

theorem isChar_of_mem_digits {c : Char} {n : Int} (member : c ∈ Decimal.digits n) : Xml.isChar c = true := by
  rcases Decimal.mem_digits member with rfl | digit
  · decide
  · have bounds := Char.isDigit_iff_toNat.1 digit
    rw [Xml.isChar, Text.CharClass.contains_iff]
    exact ⟨(0x20, 0xD7FF), by decide, by simp at bounds ⊢; omega⟩

theorem digits_legal (n : Int) : Xml.legalText (Decimal.text n) = true := by
  rw [Xml.legalText, Decimal.text_toList, List.all_eq_true]
  exact fun c member => isChar_of_mem_digits member

theorem digits_unified (n : Int) : Text.unifyLineEnds (Decimal.digits n) = Decimal.digits n := by
  refine Text.unifyLineEnds_eq_self fun member => ?_
  rcases Decimal.mem_digits member with same | digit
  · exact absurd same (by decide)
  · exact absurd digit (by decide)

/-! Names with their numbers. -/

/-- A name and the integer that is given under it, if one is. -/
abbrev Given := String × Option Int

namespace Given

def text (g : Given) : String := g.2.elim "" Decimal.text

def reading? (g : Given) : Option Reading := g.2.map fun n => (g.1, Decimal.digits n)

structure Readable (g : Given) : Prop where
  known : g.1 ∈ tags
  fits : ∀ n, g.2 = some n → Decimal.fits n = true

end Given

def listing (entries : List Given) : Xml.Element :=
  .ofChildren rootName [] (entries.map fun g => .ofText g.1 [] g.text)

/-- Whether the children of an element are those names with those texts, whatever else stands in
the element or in a child after its text. -/
def Lists (e : Xml.Element) (entries : List Given) : Prop :=
  e.children.map (fun c => (c.tag, c.leadingText)) = entries.map fun g => (g.1, g.text.toList)

theorem listing_lists (entries : List Given) : Lists (listing entries) entries := by
  rw [Lists, listing, children_ofChildren, List.map_map]
  refine List.map_congr_left fun g _ => ?_
  rw [Function.comp_apply, leadingText_ofText]
  rfl

theorem filled?_given {c : Xml.Element} {g : Given} (readable : g.Readable)
    (same : (c.tag, c.leadingText) = (g.1, g.text.toList)) : filled? c = g.reading? := by
  obtain ⟨name, n?⟩ := g
  obtain ⟨tag, text⟩ := Prod.mk.inj same
  rw [filled?, tag, text]
  cases n? with
  | none =>
    have blank : Text.trim Text.isBlank (Given.text (name, none)).toList = [] := rfl
    rw [if_neg fun counts => counts.2 blank]
    rfl
  | some n =>
    have digits : (Given.text (name, some n)).toList = Decimal.digits n := Decimal.text_toList n
    rw [digits, Text.trim_digits, if_pos ⟨readable.known, Decimal.digits_ne_nil n⟩]
    rfl

section

variable {entries : List Given} (readable : ∀ g ∈ entries, g.Readable)

theorem mem_filterMap_reading? {name : String} {text : List Char} :
    (name, text) ∈ entries.filterMap Given.reading? ↔ ∃ n, (name, some n) ∈ entries ∧ text = Decimal.digits n := by
  rw [List.mem_filterMap]
  constructor
  · rintro ⟨⟨name, n?⟩, member, read⟩
    obtain ⟨n, rfl, same⟩ := Option.map_eq_some_iff.1 read
    cases same
    exact ⟨n, member, rfl⟩
  · rintro ⟨n, member, rfl⟩
    exact ⟨(name, some n), member, rfl⟩

include readable

/-- Only the children with a number count. -/
theorem filled_given {children : List Xml.Element}
    (same : children.map (fun c => (c.tag, c.leadingText)) = entries.map fun g => (g.1, g.text.toList)) :
    filled children = entries.filterMap Given.reading? := by
  induction entries generalizing children with
  | nil =>
    obtain rfl := List.map_eq_nil_iff.1 same
    rfl
  | cons g rest ih =>
    obtain ⟨c, others, rfl, first, later⟩ := List.map_eq_cons_iff.1 same
    obtain ⟨here, tail⟩ := List.forall_mem_cons.1 readable
    rw [filled, List.filterMap_cons, List.filterMap_cons, filled?_given here first]
    cases g.reading? with
    | none => exact ih tail later
    | some r => exact congrArg (r :: ·) (ih tail later)

theorem number?_given {r : Reading} (member : r ∈ entries.filterMap Given.reading?) : r.number?.isSome := by
  obtain ⟨n, inside, text⟩ := mem_filterMap_reading?.1 member
  rw [Reading.number?, text, Numeral.ofElementText_digits ((readable _ inside).fits n rfl)]
  rfl

/-- Where no name stands twice, a name gives its own number. -/
theorem last?_given (once : (entries.map Prod.fst).Nodup) (name : String) :
    last? (entries.filterMap Given.reading?) name = (entries.lookup name).join := by
  have apart : ((entries.filterMap Given.reading?).map Prod.fst).Nodup := by
    rw [List.Nodup, List.pairwise_map] at once ⊢
    refine once.filterMap _ fun g h other r first s second => ?_
    obtain ⟨_, -, rfl⟩ := Option.map_eq_some_iff.1 first
    obtain ⟨_, -, rfl⟩ := Option.map_eq_some_iff.1 second
    exact other
  refine Option.ext fun n => ?_
  rw [last?, lookup_of_perm apart (List.reverse_perm _), Option.bind_eq_some_iff, Option.join_eq_some_iff,
    lookup_eq_some_iff_mem once]
  constructor
  · rintro ⟨text, found, number⟩
    obtain ⟨m, member, rfl⟩ := mem_filterMap_reading?.1 ((lookup_eq_some_iff_mem apart).1 found)
    rw [Numeral.ofElementText_digits ((readable _ member).fits m rfl)] at number
    cases number
    exact member
  · intro member
    have found := mem_filterMap_reading?.2 ⟨n, member, rfl⟩
    exact ⟨_, (lookup_eq_some_iff_mem apart).2 found,
      Numeral.ofElementText_digits ((readable _ member).fits n rfl)⟩

/-- Every name gives its number to the lease. -/
theorem ofElement_of_lists {e : Xml.Element} (lists : Lists e entries) (once : (entries.map Prod.fst).Nodup) :
    ofElement e = .ok (ofNumbers fun name => (entries.lookup name).join) := by
  rw [ofElement_eq_ok_iff, filled_given readable lists]
  refine ⟨fun r member => number?_given readable member, ?_⟩
  rw [funext (last?_given readable once)]

end

/-! Where the element stands. -/

/-- The element is the root of a document, or the first child with its tag of another root. -/
inductive StandsIn (e : Xml.Element) : Xml.Element → Prop where
  | root : e.tag = rootName → StandsIn e e
  | child {root : Xml.Element} {before after : List Xml.Element} : root.tag ≠ rootName →
      root.children = before ++ e :: after → e.tag = rootName → (∀ other ∈ before, other.tag ≠ rootName) →
      StandsIn e root

theorem locate_of_standsIn {e root : Xml.Element} (stands : StandsIn e root) : locate root = .ok e := by
  cases stands with
  | root tag => exact if_pos tag
  | child other children tag first =>
    have found : root.child? rootName = some e := by
      rw [Xml.Element.child?, List.find?_eq_some_iff_append]
      refine ⟨by simpa using tag, _, _, children, fun earlier member => ?_⟩
      simpa using first earlier member
    rw [locate, if_neg other, found]

/-! What can be written. -/

theorem plainName_of_mem_tags {name : String} (known : name ∈ tags) : Xml.plainName name = true := by
  have all : ∀ name ∈ tags, Xml.plainName name = true := by decide
  exact all name known

theorem legalText_given (g : Given) : Xml.legalText g.text = true := by
  obtain ⟨name, n?⟩ := g
  cases n? with
  | none => rfl
  | some n => exact digits_legal n

theorem unified_given (g : Given) : Text.unifyLineEnds g.text.toList = g.text.toList := by
  obtain ⟨name, n?⟩ := g
  cases n? with
  | none => rfl
  | some n =>
    have digits : (Given.text (name, some n)).toList = Decimal.digits n := Decimal.text_toList n
    rw [digits, digits_unified]

theorem listing_plain {entries : List Given} (known : ∀ g ∈ entries, g.1 ∈ tags) : (listing entries).plain = true := by
  have root : Xml.plainName rootName = true := by decide
  have none : Xml.plainAttributes [] = true := rfl
  rw [listing, Xml.Element.plain_ofChildren, root, none, List.all_map, List.all_eq_true.2]
  · rfl
  · intro g member
    rw [Function.comp_apply, Xml.Element.plain_ofText, plainName_of_mem_tags (known g member), none]
    rfl

theorem listing_legal (entries : List Given) : (listing entries).legal = true := by
  rw [listing, Xml.Element.legal_ofChildren, List.all_map, List.all_eq_true]
  intro g _
  rw [Function.comp_apply, Xml.Element.legal_ofText, legalText_given]

/-- There are no ends of lines in it. -/
theorem listing_unified (entries : List Given) : (listing entries).unified = listing entries := by
  rw [listing, Xml.Element.unified_ofChildren, List.map_map]
  refine congrArg _ (List.map_congr_left fun g _ => ?_)
  rw [Function.comp_apply, Xml.Element.unified_ofText, unified_given, String.ofList_toList]

end ServiceLease.Lease
