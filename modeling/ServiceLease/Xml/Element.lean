/-! Documents as trees of elements and characters. -/
namespace ServiceLease.Xml

/-- A name and the namespace it is in, if any. -/
structure Name where
  space : Option String
  part : String
  deriving DecidableEq, Repr

namespace Name

def plain (part : String) : Name := ⟨none, part⟩

/-- The namespace in braces, then the name. -/
def text (n : Name) : String :=
  match n.space with
  | none => n.part
  | some space => "\x7b" ++ space ++ "\x7d" ++ n.part

end Name

structure Attribute where
  name : Name
  value : String
  deriving DecidableEq, Repr

inductive Node where
  | char (c : Char)
  | element (name : Name) (attributes : List Attribute) (content : List Node)

structure Element where
  name : Name
  attributes : List Attribute
  content : List Node

def Element.node (e : Element) : Node := .element e.name e.attributes e.content

namespace Node

def element? : Node → Option Element
  | .char _ => none
  | .element name attributes content => some ⟨name, attributes, content⟩

def ofText (s : String) : List Node := s.toList.map .char

def leadingText : List Node → List Char
  | .char c :: rest => c :: leadingText rest
  | _ => []

end Node

namespace Element

def tag (e : Element) : String := e.name.text

def children (e : Element) : List Element := e.content.filterMap Node.element?

def leadingText (e : Element) : List Char := Node.leadingText e.content

def child? (e : Element) (tag : String) : Option Element := e.children.find? (·.tag == tag)

def ofText (name : String) (attributes : List Attribute) (s : String) : Element :=
  ⟨.plain name, attributes, Node.ofText s⟩

def ofChildren (name : String) (attributes : List Attribute) (children : List Element) : Element :=
  ⟨.plain name, attributes, children.map Element.node⟩

end Element

end ServiceLease.Xml
