import ServiceLease.Proofs.Lease.RoundTrip

/-! What of a document counts for the lease in it. One element is found, and of its content only the
children with known tags and the trimmed texts that these begin with; two documents that agree
there have the same outcome, whatever else stands in them. -/
namespace ServiceLease.Lease

open Xml (Node)

/-! The element that is found. -/

/-- There is one element that is found, or neither the root nor any of its children has the tag. -/
theorem standsIn_or_missing (root : Xml.Element) :
    (∃ e, StandsIn e root) ∨ root.tag ≠ rootName ∧ ∀ c ∈ root.children, c.tag ≠ rootName := by
  by_cases here : root.tag = rootName
  · exact .inl ⟨root, .root here⟩
  cases found : root.child? rootName with
  | some e =>
    obtain ⟨tag, before, after, children, first⟩ := List.find?_eq_some_iff_append.1 found
    exact .inl ⟨e, .child here children (by simpa using tag) (by simpa using first)⟩
  | none => exact .inr ⟨here, by simpa using List.find?_eq_none.1 found⟩

theorem locate_of_missing {root : Xml.Element} (other : root.tag ≠ rootName)
    (children : ∀ c ∈ root.children, c.tag ≠ rootName) : locate root = .error (.leaseMissing root.tag) := by
  have none : root.child? rootName = none := List.find?_eq_none.2 (by simpa using children)
  rw [locate, if_neg other, none]

/-! What is read of it. -/

def known? (child : Xml.Element) : Option Reading :=
  if child.tag ∈ tags then some (child.tag, Text.trim Text.isBlank child.leadingText) else none

/-- The known tags in a content, with the trimmed texts of the children that have them. -/
def tagged (content : List Node) : List Reading := (content.filterMap Node.element?).filterMap known?

@[simp] theorem tagged_nil : tagged [] = [] := rfl

@[simp] theorem tagged_char (c : Char) (rest : List Node) : tagged (.char c :: rest) = tagged rest := rfl

theorem tagged_unknown {name : Xml.Name} (unknown : name.text ∉ tags) (attributes : List Xml.Attribute)
    (content rest : List Node) : tagged (.element name attributes content :: rest) = tagged rest := by
  rw [tagged, List.filterMap_cons, Node.element?, List.filterMap_cons, known?, Xml.Element.tag, if_neg unknown]
  rfl

theorem tagged_known {name : Xml.Name} (known : name.text ∈ tags) (attributes : List Xml.Attribute)
    (content rest : List Node) :
    tagged (.element name attributes content :: rest) =
      (name.text, Text.trim Text.isBlank (Node.leadingText content)) :: tagged rest := by
  rw [tagged, List.filterMap_cons, Node.element?, List.filterMap_cons, known?, Xml.Element.tag, if_pos known]
  rfl

theorem filled?_eq_filter_known? (child : Xml.Element) : filled? child = (known? child).filter (·.2 ≠ []) := by
  rw [filled?, known?]
  by_cases known : child.tag ∈ tags
  · by_cases text : Text.trim Text.isBlank child.leadingText = [] <;> simp [known, text, Option.filter]
  · simp [known]

/-- The children that count are those with known tags and a text. -/
theorem filled_eq_filter_tagged (e : Xml.Element) : filled e.children = (tagged e.content).filter (·.2 ≠ []) := by
  rw [filled, tagged, List.filter_filterMap, funext filled?_eq_filter_known?]
  rfl

theorem ofElement_congr {e other : Xml.Element} (same : tagged e.content = tagged other.content) :
    ofElement e = ofElement other := by
  rw [ofElement_eq, ofElement_eq, filled_eq_filter_tagged, filled_eq_filter_tagged, same]

/-- Two contents that differ in nothing that is read: in characters between the children, in children with
unknown tags, and in a child with a known tag in its attributes, in the blanks around its text, and in all that
follows the text. -/
inductive Retouched : List Node → List Node → Prop where
  | nil : Retouched [] []
  | char (c : Char) {xs ys : List Node} : Retouched xs ys → Retouched (.char c :: xs) ys
  | unknown {name : Xml.Name} (attributes : List Xml.Attribute) (content : List Node) {xs ys : List Node} :
      name.text ∉ tags → Retouched xs ys → Retouched (.element name attributes content :: xs) ys
  | known {name other : Xml.Name} (attributes others : List Xml.Attribute) {content inner xs ys : List Node} :
      name.text ∈ tags → name.text = other.text →
      Text.trim Text.isBlank (Node.leadingText content) = Text.trim Text.isBlank (Node.leadingText inner) →
      Retouched xs ys → Retouched (.element name attributes content :: xs) (.element other others inner :: ys)
  | symm {xs ys : List Node} : Retouched xs ys → Retouched ys xs

theorem tagged_of_retouched {xs ys : List Node} (retouched : Retouched xs ys) : tagged xs = tagged ys := by
  induction retouched with
  | nil => rfl
  | char c _ ih => rw [tagged_char, ih]
  | unknown attributes content unknown _ ih => rw [tagged_unknown unknown, ih]
  | known attributes others known same text _ ih =>
    rw [tagged_known known, tagged_known (same ▸ known), same, text, ih]
  | symm _ ih => exact ih.symm

/-- A node is skipped, or it is a child with a known tag. -/
theorem skipped_or_known (node : Node) :
    (∀ rest, tagged (node :: rest) = tagged rest) ∧ (∀ {xs ys}, Retouched xs ys → Retouched (node :: xs) ys) ∨
      ∃ name attributes content, name.text ∈ tags ∧ node = .element name attributes content := by
  cases node with
  | char c => exact .inl ⟨fun _ => rfl, .char c⟩
  | element name attributes content =>
    by_cases known : name.text ∈ tags
    · exact .inr ⟨name, attributes, content, known, rfl⟩
    · exact .inl ⟨tagged_unknown known attributes content, .unknown attributes content known⟩

theorem retouched_of_tagged {xs ys : List Node} (same : tagged xs = tagged ys) : Retouched xs ys := by
  induction xs generalizing ys with
  | nil =>
    induction ys with
    | nil => exact .nil
    | cons node ys skip =>
      rcases skipped_or_known node with ⟨skipped, added⟩ | ⟨name, attributes, content, known, rfl⟩
      · rw [skipped] at same
        exact (added (skip same).symm).symm
      · rw [tagged_known known] at same
        cases same
  | cons first xs ih =>
    rcases skipped_or_known first with ⟨skipped, added⟩ | ⟨name, attributes, content, known, rfl⟩
    · rw [skipped] at same
      exact added (ih same)
    · induction ys with
      | nil =>
        rw [tagged_known known] at same
        cases same
      | cons node ys skip =>
        rcases skipped_or_known node with ⟨skipped, added⟩ | ⟨other, others, inner, matched, rfl⟩
        · rw [skipped] at same
          exact (added (skip same).symm).symm
        · rw [tagged_known known, tagged_known matched, List.cons.injEq, Prod.mk.injEq] at same
          obtain ⟨⟨tag, text⟩, later⟩ := same
          exact .known attributes others known tag text (ih later)

/-- A document has the outcome of its root if that has the tag of a lease, and otherwise of the first child with
the tag; without one it is refused. Of the element that is found the known tags and the trimmed texts in its
content decide, so that the outcome stays if the content is retouched or all around it is changed. -/
theorem located_content_decides (text : String) (root : Xml.Element) (read : Xml.read text = .ok root) :
    (∀ e, StandsIn e root → ofDocument text = ofElement e) ∧
    (root.tag ≠ rootName → (∀ c ∈ root.children, c.tag ≠ rootName) →
      ofDocument text = .error (.leaseMissing root.tag)) ∧
    ((∃ e, StandsIn e root) ∨ root.tag ≠ rootName ∧ ∀ c ∈ root.children, c.tag ≠ rootName) ∧
    (∀ xs ys, Retouched xs ys ↔ tagged xs = tagged ys) ∧
    ∀ e, StandsIn e root → ∀ text' root' e', Xml.read text' = .ok root' → StandsIn e' root' →
      tagged e.content = tagged e'.content → ofDocument text = ofDocument text' := by
  have located {e} (stands : StandsIn e root) : ofDocument text = ofElement e :=
    ofDocument_of_read read (locate_of_standsIn stands)
  refine ⟨fun e => located, fun other children => ?_, standsIn_or_missing root, ?_, ?_⟩
  · rw [ofDocument_eq read, locate_of_missing other children]
    rfl
  · exact fun xs ys => ⟨tagged_of_retouched, retouched_of_tagged⟩
  · intro e stands text' root' e' read' stands' same
    rw [located stands, ofDocument_of_read read' (locate_of_standsIn stands'), ofElement_congr same]

def padded : Xml.Element :=
  ⟨.plain rootName, [⟨.plain "unit", "s"⟩], Node.ofText "\n  " ++
    [Xml.Element.node ⟨.plain "durationInSecs", [⟨.plain "evictionTimestamp", "1"⟩],
      Node.ofText " 60\n" ++ [(Xml.Element.ofText "evictionTimestamp" [] "2").node] ++ Node.ofText "3"⟩,
    (Xml.Element.ofChildren "leases" [] [.ofText "evictionTimestamp" [] "4"]).node] ++ Node.ofText "5"⟩

def roomy : Xml.Element :=
  .ofChildren "instance" [⟨.plain "id", "6"⟩]
    [.ofText "durationInSecs" [] "7", .ofChildren "leases" [] [.ofText rootName [] "8"], padded,
      .ofChildren rootName [] [.ofText "durationInSecs" [] "9"]]

def terse : Xml.Element :=
  .ofChildren rootName [] [.ofChildren rootName [] [], .ofText "durationInSecs" [] "60"]

theorem located_content_decides_roomy :
    Xml.read (Xml.render roomy) = .ok roomy.unified ∧ StandsIn padded.unified roomy.unified ∧
    Xml.read (Xml.render terse) = .ok terse.unified ∧ StandsIn terse.unified terse.unified ∧
    ofDocument (Xml.render roomy) = ofDocument (Xml.render terse) ∧
    ofDocument (Xml.render roomy) = .ok ⟨0, 60, 0, 0, 0, 0⟩ := by
  have read := Xml.read_render (e := roomy) (by decide +kernel) (by decide +kernel)
  have terseRead := Xml.read_render (e := terse) (by decide +kernel) (by decide +kernel)
  have children : roomy.unified.children =
      [.ofText "durationInSecs" [] "7", .ofChildren "leases" [] [.ofText rootName [] "8"]] ++
        padded.unified :: [.ofChildren rootName [] [.ofText "durationInSecs" [] "9"]] := rfl
  have stands : StandsIn padded.unified roomy.unified := .child (by decide) children rfl (by decide)
  have terseStands : StandsIn terse.unified terse.unified := .root rfl
  have same : tagged padded.unified.content = tagged terse.unified.content := rfl
  obtain ⟨located, -, -, -, kept⟩ := located_content_decides _ _ read
  have element : ofElement padded.unified = .ok ⟨0, 60, 0, 0, 0, 0⟩ := rfl
  exact ⟨read, stands, terseRead, terseStands, kept _ stands _ _ _ terseRead terseStands same,
    (located _ stands).trans element⟩

end ServiceLease.Lease
