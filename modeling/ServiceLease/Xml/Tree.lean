import ServiceLease.Xml.StartTag

/-! The tree of elements that tokens describe. An entity stands for content of its own:
every element that begins in it ends in it. -/
namespace ServiceLease.Xml

/-- An open element, with what its parent held before it and the bindings there. -/
structure Frame where
  written : String
  name : Name
  attributes : List Attribute
  before : List Node
  scope : Scope

/-- What has been read: the open elements, innermost first, and the nodes of the
innermost, last first. -/
structure Progress where
  frames : List Frame
  nodes : List Node
  scope : Scope
  spent : Nat

namespace Progress

def start (scope : Scope) (spent : Nat) : Progress := ⟨[], [], scope, spent⟩

def addChar (c : Char) (p : Progress) : Progress := { p with nodes := .char c :: p.nodes }

def openElement (o : Opening) (p : Progress) : Progress :=
  { frames := ⟨o.written, o.name, o.attributes, p.nodes, p.scope⟩ :: p.frames
    nodes := []
    scope := o.scope
    spent := o.spent }

def close (p : Progress) : Progress :=
  match p.frames with
  | [] => p
  | f :: outer =>
    { p with
      frames := outer
      nodes := .element f.name f.attributes p.nodes.reverse :: f.before
      scope := f.scope }

def step (c : Context) (expand : String → Progress → Except Cause Progress) (p : Progress)
    (l : Lexeme Token) : Except Fault Progress :=
  match l.token with
  | .char ch => .ok (p.addChar ch)
  | .badNumber => .error ⟨.badCharacterNumber, l.start.length⟩
  | .reference name => (expand name p).mapError (⟨·, l.start.length⟩)
  | .startTag tag =>
    match Opening.ofTag c l.start p.scope p.spent tag with
    | .error f => .error f
    | .ok o => .ok (if tag.closed then (p.openElement o).close else p.openElement o)
  | .endTag name start =>
    match p.frames with
    | [] => .error ⟨.unbalancedEntity, l.start.length⟩
    | f :: _ => if f.written = name then .ok p.close else .error ⟨.mismatchedTag, start.length⟩
  | .aside => .ok p
  | .declaration => .error ⟨.misplacedDeclaration, l.start.length⟩
  | .verbatim => .ok p

/-- Takes in the content that an entity stands for. Each entity being expanded is a
different one, so `depth` need not be larger than their number. -/
def expand : Nat → Context → String → Progress → Except Cause Progress
  | depth, c, name, p =>
    match predefined? name with
    | some ch => .ok (p.addChar ch)
    | none =>
      match c.dtd.entities.lookup name with
      | none => .error (if c.dtd.complete then .undefinedEntity else .unreadEntity name)
      | some e =>
        if c.opened.contains name then .error .recursiveEntity
        else
          match e, depth with
          | .unparsed, _ => .error .unparsedEntityReference
          | .external, _ => .error (.unreadEntity name)
          | .internal _, 0 => .error .recursiveEntity
          | .internal text, depth + 1 =>
            let spent := p.spent + Scan.octets text
            let lexed := Content.lexemes text
            let c := c.opening name
            if spent > c.allowance then .error .amplification
            else
              match lexed.lexemes.foldlM (step c (expand depth c)) (start p.scope spent), lexed.ending with
              | .error f, _ => .error f.cause
              | .ok _, .broken f => .error f.cause
              | .ok q, .complete _ =>
                if q.frames.isEmpty then .ok { p with nodes := q.nodes ++ p.nodes, spent := q.spent }
                else .error .unbalancedEntity

end Progress

def readRoot (c : Context) (ending : Ending) : Progress → List (Lexeme Token) → Except Fault (Element × List Char)
  | _, [] =>
    match ending with
    | .complete left => .error ⟨.noElement, left⟩
    | .broken f => .error f
  | p, l :: rest =>
    match p.step c (Progress.expand c.depth c) l with
    | .error f => .error f
    | .ok p =>
      match p.frames, p.nodes with
      | [], .element name attributes content :: _ => .ok (⟨name, attributes, content⟩, l.rest)
      | _, _ => readRoot c ending p rest

end ServiceLease.Xml
