import ServiceLease.Xml.Scan

/-! What the declarations of a document say about entities and attributes. -/
namespace ServiceLease.Xml

inductive Entity where
  | internal (text : List Char)
  /-- Kept outside the document, where it is not looked for. -/
  | external
  /-- Kept outside the document, and no text. -/
  | unparsed
  deriving DecidableEq, Repr

/-- What is declared of an attribute of an element, both by their written names. -/
structure AttributeRule where
  element : String
  name : Written
  tokenized : Bool
  standard : Option (List Char)
  deriving DecidableEq, Repr

structure Dtd where
  entities : List (String × Entity)
  rules : List AttributeRule
  /-- Whether declarations outside the document are named. -/
  external : Bool
  /-- Whether a reference may have stood for declarations. -/
  interrupted : Bool
  standalone : Bool
  deriving DecidableEq, Repr

namespace Dtd

def empty (standalone : Bool) : Dtd := ⟨[], [], false, false, standalone⟩

def complete (d : Dtd) : Bool := !(d.external || d.interrupted) || d.standalone

/-- Whether a further declaration still counts. -/
def listens (d : Dtd) : Bool := !d.interrupted || d.standalone

/-- Declares an entity; the first declaration of a name counts. -/
def addEntity (d : Dtd) (name : String) (e : Entity) : Dtd :=
  if d.listens && (d.entities.lookup name).isNone then { d with entities := d.entities ++ [(name, e)] }
  else d

/-- Declares an attribute; the first declaration for an element counts. -/
def addRule (d : Dtd) (r : AttributeRule) : Dtd :=
  if d.listens && !d.rules.any (fun s => s.element == r.element && s.name == r.name) then
    { d with rules := d.rules ++ [r] }
  else d

def rulesOf (d : Dtd) (element : String) : List AttributeRule := d.rules.filter (·.element == element)

/-- Whether blanks in the value of an attribute are collapsed. -/
def tokenizes (d : Dtd) (element : String) (name : Written) : Bool :=
  (d.rulesOf element).any fun r => r.name == name && r.tokenized

end Dtd

def predefined? : String → Option Char
  | "lt" => some '<'
  | "gt" => some '>'
  | "amp" => some '&'
  | "quot" => some '"'
  | "apos" => some '\x27'
  | _ => none

/-- How far entities may be expanded: `opened` are those being expanded, and `allowance`
is the number of octets that expansions may give. -/
structure Context where
  dtd : Dtd
  allowance : Nat
  opened : List String

namespace Context

def opening (c : Context) (name : String) : Context := { c with opened := name :: c.opened }

def depth (c : Context) : Nat := c.dtd.entities.length

end Context

end ServiceLease.Xml
