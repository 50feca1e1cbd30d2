import ServiceLease.Xml.Element
import ServiceLease.Xml.Error
import ServiceLease.Xml.Scan

/-! Namespaces: which one a prefix stands for, and what may be bound. -/
namespace ServiceLease.Xml

/-- Bindings in force, latest first. A name without a prefix is bound under `none`; no
namespace is bound to a prefix that was freed again. -/
abbrev Scope := List (Option String × Option String)

namespace Scope

def xmlSpace : String := "http://www.w3.org/XML/1998/namespace"

def xmlnsSpace : String := "http://www.w3.org/2000/xmlns/"

def initial : Scope := [(some "xml", some xmlSpace)]

def space? (s : Scope) (qualifier : Option String) : Option String := (s.lookup qualifier).join

/-- Binds a prefix, or names without one, to a namespace. The brace that closes a
namespace in a tag cannot occur in one. -/
def bind (s : Scope) (qualifier : Option String) (space : String) : Except Cause Scope :=
  if space = "" && qualifier.isSome then .error .undeclaredPrefix
  else if qualifier = some "xmlns" then .error .xmlnsPrefixDeclared
  else if space.toList.contains '}' then .error .unexpectedMarkup
  else if qualifier = some "xml" && space != xmlSpace then .error .xmlPrefixRebound
  else if qualifier != some "xml" && space = xmlSpace then .error .reservedNamespace
  else if space = xmlnsSpace then .error .reservedNamespace
  else .ok ((qualifier, if space = "" then none else some space) :: s)

end Scope

/-- The prefix that a declaration of this name binds: `some none` binds names without
one. -/
def Written.declares? (w : Written) : Option (Option String) :=
  if w.qualifier = some "xmlns" then some (some w.part)
  else if w.text = "xmlns" then some none
  else none

def Written.attributeName? (w : Written) (s : Scope) : Option Name :=
  match w.qualifier with
  | none => some (.plain w.part)
  | some q => (s.space? (some q)).map fun space => ⟨some space, w.part⟩

def Written.elementName? (w : Written) (s : Scope) : Option Name :=
  match w.qualifier with
  | none => some ⟨s.space? none, w.part⟩
  | some q => (s.space? (some q)).map fun space => ⟨some space, w.part⟩

end ServiceLease.Xml
