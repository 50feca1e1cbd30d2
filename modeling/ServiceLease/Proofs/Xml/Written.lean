import ServiceLease.Text.Line
import ServiceLease.Xml.Chars
import ServiceLease.Xml.Printer

/-! Elements that can be written and read: those with names in no namespace. What is
read differs from what was written only in the ends of lines. -/
namespace ServiceLease.Xml

def legalText (s : String) : Bool := s.toList.all isChar

theorem legalText_append (s t : String) : legalText (s ++ t) = (legalText s && legalText t) := by
  rw [legalText, String.toList_append, List.all_append]
  rfl

def plainName (s : String) : Bool :=
  match s.toList with
  | [] => false
  | c :: rest => isNameStart c && rest.all isNameChar

theorem plainName_iff (s : String) :
    plainName s = true ↔ ∃ c rest, s.toList = c :: rest ∧ isNameStart c = true ∧ rest.all isNameChar = true := by
  unfold plainName
  cases s.toList with
  | nil => simp
  | cons c rest =>
    rw [Bool.and_eq_true]
    constructor
    · intro named
      exact ⟨c, rest, rfl, named⟩
    · rintro ⟨d, others, same, named⟩
      cases same
      exact named

/-- An attribute that declares no namespace and is in none. -/
def Attribute.plain (a : Attribute) : Bool :=
  a.name.space.isNone && plainName a.name.part && a.name.part != "xmlns" && legalText a.value

theorem Attribute.plain_iff (a : Attribute) :
    a.plain = true ↔ a.name = .plain a.name.part ∧ plainName a.name.part = true ∧ a.name.part ≠ "xmlns" ∧
      legalText a.value = true := by
  obtain ⟨⟨space, part⟩, value⟩ := a
  simp [plain, Name.plain, and_assoc]

def plainAttributes (as : List Attribute) : Bool :=
  as.all Attribute.plain && decide (as.map (·.name.part)).Nodup

theorem plainAttributes_iff (as : List Attribute) :
    plainAttributes as = true ↔ as.all Attribute.plain = true ∧ (as.map (·.name.part)).Nodup := by
  rw [plainAttributes, Bool.and_eq_true, decide_eq_true_iff]

structure PlainTag (name : Name) (as : List Attribute) : Prop where
  unqualified : name = .plain name.part
  named : plainName name.part = true
  attributes : plainAttributes as = true

mutual

/-- Whether all markup can be written; the texts are not looked at. -/
def Node.plain : Node → Bool
  | .char _ => true
  | .element name attributes content =>
    name.space.isNone && plainName name.part && plainAttributes attributes && contentPlain content

def contentPlain : List Node → Bool
  | [] => true
  | node :: rest => node.plain && contentPlain rest

end

mutual

def Node.legal : Node → Bool
  | .char c => isChar c
  | .element _ _ content => contentLegal content

def contentLegal : List Node → Bool
  | [] => true
  | node :: rest => node.legal && contentLegal rest

end

mutual

/-- A node with every end of a line as a single line feed. -/
def Node.unified : Node → Node
  | .char c => .char (if c == '\r' then '\n' else c)
  | .element name attributes content => .element name attributes (contentUnified content)

def contentUnified : List Node → List Node
  | [] => []
  | .char '\r' :: .char '\n' :: rest => .char '\n' :: contentUnified rest
  | node :: rest => node.unified :: contentUnified rest

end

namespace Element

def plain (e : Element) : Bool := e.node.plain

def legal (e : Element) : Bool := e.node.legal

def unified (e : Element) : Element := ⟨e.name, e.attributes, contentUnified e.content⟩

end Element

theorem Node.plain_element_iff (name : Name) (attributes : List Attribute) (content : List Node) :
    (Node.element name attributes content).plain = true ↔
      PlainTag name attributes ∧ contentPlain content = true := by
  rw [plain, Bool.and_eq_true, Bool.and_eq_true, Bool.and_eq_true, Option.isNone_iff_eq_none]
  constructor
  · rintro ⟨⟨⟨space, named⟩, attributes⟩, inner⟩
    exact ⟨⟨by rw [Name.plain, ← space], named, attributes⟩, inner⟩
  · rintro ⟨⟨unqualified, named, attributes⟩, inner⟩
    exact ⟨⟨⟨by rw [unqualified]; rfl, named⟩, attributes⟩, inner⟩

/-- Induction on a node, with the nodes inside an element as smaller ones. -/
theorem Node.induct {P : Node → Prop} (char : ∀ c, P (.char c))
    (element : ∀ name attributes content, (∀ node ∈ content, P node) → P (.element name attributes content)) :
    ∀ node, P node := by
  intro node
  refine @Node.rec P (fun content => ∀ node ∈ content, P node) char element ?_ ?_ node
  · simp
  · intro head tail first others n member
    rcases List.mem_cons.1 member with rfl | later
    · exact first
    · exact others n later

theorem contentPlain_eq_all (content : List Node) : contentPlain content = content.all Node.plain := by
  induction content with
  | nil => rfl
  | cons node rest ih => simp [contentPlain, ih]

theorem contentLegal_eq_all (content : List Node) : contentLegal content = content.all Node.legal := by
  induction content with
  | nil => rfl
  | cons node rest ih => simp [contentLegal, ih]

theorem contentUnified_chars (s : List Char) :
    contentUnified (s.map .char) = (Text.unifyLineEnds s).map .char := by
  fun_induction Text.unifyLineEnds s with
  | case1 => rfl
  | case2 rest ih => simp [contentUnified, ih]
  | case3 c rest apart ih =>
    rw [List.map_cons, List.map_cons, ← ih, contentUnified]
    · rfl
    · intro tail same rest'
      cases rest with
      | nil => simp at rest'
      | cons d rest =>
        simp only [List.map_cons, List.cons.injEq, Node.char.injEq] at same rest'
        exact apart rest same (by rw [rest'.1])

theorem contentUnified_elements (children : List Element) :
    contentUnified (children.map Element.node) = children.map fun e => e.unified.node := by
  induction children with
  | nil => rfl
  | cons e rest ih => simp [Element.node, contentUnified, Node.unified, ih, Element.unified]

/-- Elements stay where they are among each other. -/
theorem children_contentUnified (content : List Node) :
    (contentUnified content).filterMap Node.element? =
      (content.filterMap Node.element?).map Element.unified := by
  unfold contentUnified
  split
  · rfl
  · next rest => exact children_contentUnified rest
  · next node rest _ =>
    have tail := children_contentUnified rest
    cases node with
    | char c => exact tail
    | element name attributes inner =>
      simp only [Node.unified, List.filterMap_cons, Node.element?, List.map_cons, tail]
      rfl
termination_by content.length

namespace Element

theorem plain_eq (e : Element) :
    e.plain = (e.name.space.isNone && plainName e.name.part && plainAttributes e.attributes &&
      e.content.all Node.plain) := by
  rw [plain, node, Node.plain, contentPlain_eq_all]

theorem legal_eq (e : Element) : e.legal = e.content.all Node.legal := by
  rw [legal, node, Node.legal, contentLegal_eq_all]

@[simp] theorem plain_ofText (name : String) (attributes : List Attribute) (s : String) :
    (ofText name attributes s).plain = (plainName name && plainAttributes attributes) := by
  have chars : (Node.ofText s).all Node.plain = true := by simp [Node.ofText, Node.plain]
  simp [plain_eq, ofText, Name.plain, chars]

@[simp] theorem plain_ofChildren (name : String) (attributes : List Attribute) (children : List Element) :
    (ofChildren name attributes children).plain =
      (plainName name && plainAttributes attributes && children.all plain) := by
  rw [plain_eq, ofChildren, List.all_map]
  rfl

@[simp] theorem legal_ofText (name : String) (attributes : List Attribute) (s : String) :
    (ofText name attributes s).legal = legalText s := by
  rw [legal_eq, ofText, Node.ofText, List.all_map]
  rfl

@[simp] theorem legal_ofChildren (name : String) (attributes : List Attribute) (children : List Element) :
    (ofChildren name attributes children).legal = children.all legal := by
  rw [legal_eq, ofChildren, List.all_map]
  rfl

@[simp] theorem unified_ofText (name : String) (attributes : List Attribute) (s : String) :
    (ofText name attributes s).unified = ofText name attributes (String.ofList (Text.unifyLineEnds s.toList)) := by
  simp [unified, ofText, Node.ofText, contentUnified_chars]

@[simp] theorem unified_ofChildren (name : String) (attributes : List Attribute) (children : List Element) :
    (ofChildren name attributes children).unified = ofChildren name attributes (children.map unified) := by
  simp [unified, ofChildren, contentUnified_elements, Function.comp_def]

theorem children_unified (e : Element) : e.unified.children = e.children.map unified :=
  children_contentUnified e.content

end Element

end ServiceLease.Xml
