import ServiceLease.Lease.Wire
import ServiceLease.Number.Numeral
import ServiceLease.Xml.Document
import ServiceLease.Xml.Printer

/-! Leases as document elements, one child for each field. -/
namespace ServiceLease.Lease

def writable (l : Lease) : Bool := l.entries.all fun e => Decimal.fits e.2

def element (l : Lease) : Xml.Element :=
  .ofChildren rootName [] (l.entries.map fun (f, n) => .ofText f.wireName [] (Decimal.text n))

def toElement (l : Lease) : Except Failure Xml.Element :=
  if l.writable then .ok l.element else .error .integerUnwritable

def tags : List String := legacyName :: Field.all.map Field.wireName

/-- What a child gives, if it has one of the tags and a text that is not blank. -/
def reading? (child : Xml.Element) : Except Failure (Option (String × Int)) :=
  if tags.contains child.tag then
    match Text.trim Text.isBlank child.leadingText with
    | [] => .ok none
    | text => match Numeral.ofElementText text with
      | some n => .ok (some (child.tag, n))
      | none => .error (.badElementText child.tag text)
  else .ok none

/-- The numbers of all children by tag, the last of each counting. -/
def readings (known : Members) : List Xml.Element → Except Failure Members
  | [] => .ok known
  | child :: rest => do
    match ← reading? child with
    | none => readings known rest
    | some (tag, n) => readings (known.put tag (.int n)) rest

def ofElement (e : Xml.Element) : Except Failure Lease := do ofMembers (← readings [] e.children)

/-- The element that holds the lease: the root, or else the first of its children with
the tag of a lease. -/
def locate (root : Xml.Element) : Except Failure Xml.Element :=
  if root.tag = rootName then .ok root
  else match root.child? rootName with
    | some e => .ok e
    | none => .error (.leaseMissing root.tag)

def ofDocument (text : String) : Except Failure Lease := do
  let root ← (Xml.read text).mapError .xml
  ofElement (← locate root)

def toDocument (l : Lease) : Except Failure String := l.toElement.map Xml.render

end ServiceLease.Lease
