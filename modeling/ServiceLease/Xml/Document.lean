import ServiceLease.Xml.Declaration
import ServiceLease.Xml.Prolog.Subset
import ServiceLease.Xml.Source
import ServiceLease.Xml.Tree

/-! Reading a document: a declaration, the prolog, the root element, and asides. The
first thing that is wrong is reported. -/
namespace ServiceLease.Xml

/-- Entities may give this many octets in any document. -/
def freeOctets : Nat := 8 * 1024 * 1024

/-- Beyond that, a document may grow by this factor. -/
def growthLimit : Nat := 100

def allowance (size : Nat) : Nat := max (freeOctets - 1) (growthLimit * size) - size

/-- Whether a document stands alone, and the text after its declaration, which is left
out as a rule. -/
def readDeclaration (s : List Char) : Except Fault (Bool × List Char) :=
  match s with
  | '<' :: '?' :: rest =>
    match Scan.instruction rest with
    | .ok (some body, after) =>
      match Declaration.read body with
      | .ok standalone => .ok (standalone, after)
      | .error r => .error ⟨.malformedDeclaration, r.length + 2 + after.length⟩
    | _ => .ok (false, s)
  | _ => .ok (false, s)

def readSource (s : Source) : Except Fault Element := do
  let (standalone, body) ← readDeclaration s.chars
  let allowed := allowance (Scan.octets s.chars)
  let head := s.close (Prolog.lexemes body)
  let (dtd, spent, rest) ← Prolog.read head.ending ⟨.start, .empty standalone, allowed, 0⟩ head.lexemes
  let content := s.close (Content.lexemes rest)
  let (root, rest) ← readRoot ⟨dtd, allowed, []⟩ content.ending (.start .initial spent) content.lexemes
  let tail := s.close (Prolog.lexemes rest)
  Prolog.readRest tail.ending tail.lexemes
  return root

/-- The root element of a document. A byte order mark before it counts as a character
of the first line. -/
def read (text : String) : Except Error Element :=
  let s := Source.ofChars text.toList
  let body := if s.chars.head? == some '\uFEFF' then { s with chars := s.chars.tail } else s
  (readSource body).mapError (.ofFault s.chars)

end ServiceLease.Xml
