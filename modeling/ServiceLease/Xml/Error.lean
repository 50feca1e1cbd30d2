/-! Why a text is not a document, and where. -/
namespace ServiceLease.Xml

inductive Cause where
  | unexpectedMarkup
  | noElement
  | invalidToken
  | unclosedToken
  | mismatchedTag
  | duplicateAttribute
  | junkAfterElement
  | parameterReference
  | undefinedEntity
  | recursiveEntity
  | unbalancedEntity
  | badCharacterNumber
  | unparsedEntityReference
  | externalEntityInAttribute
  | misplacedDeclaration
  | unclosedSection
  | malformedDeclaration
  | badPublicId
  | unboundPrefix
  | undeclaredPrefix
  | xmlPrefixRebound
  | xmlnsPrefixDeclared
  | reservedNamespace
  | amplification
  /-- A reference to an entity whose declaration may stand in a part that is not read. -/
  | unreadEntity (name : String)
  deriving DecidableEq, Repr

def shownOctets : Nat := 100

/-- The first octets of a text; a character cut in two shows as a replacement. -/
def takeOctets : Nat → List Char → List Char
  | _, [] => []
  | 0, _ => []
  | limit + 1, c :: rest =>
    if c.utf8Size ≤ limit + 1 then c :: takeOctets (limit + 1 - c.utf8Size) rest else ['\uFFFD']

def Cause.message : Cause → String
  | .unexpectedMarkup => "syntax error"
  | .noElement => "no element found"
  | .invalidToken => "not well-formed (invalid token)"
  | .unclosedToken => "unclosed token"
  | .mismatchedTag => "mismatched tag"
  | .duplicateAttribute => "duplicate attribute"
  | .junkAfterElement => "junk after document element"
  | .parameterReference => "illegal parameter entity reference"
  | .undefinedEntity => "undefined entity"
  | .recursiveEntity => "recursive entity reference"
  | .unbalancedEntity => "asynchronous entity"
  | .badCharacterNumber => "reference to invalid character number"
  | .unparsedEntityReference => "reference to binary entity"
  | .externalEntityInAttribute => "reference to external entity in attribute"
  | .misplacedDeclaration => "XML or text declaration not at start of entity"
  | .unclosedSection => "unclosed CDATA section"
  | .malformedDeclaration => "XML declaration not well-formed"
  | .badPublicId => "illegal character(s) in public id"
  | .unboundPrefix => "unbound prefix"
  | .undeclaredPrefix => "must not undeclare prefix"
  | .xmlPrefixRebound =>
    "reserved prefix (xml) must not be undeclared or bound to another namespace name"
  | .xmlnsPrefixDeclared => "reserved prefix (xmlns) must not be declared or undeclared"
  | .reservedNamespace => "prefix must not be bound to one of the reserved namespace names"
  | .amplification => "limit on input amplification factor (from DTD and entities) breached"
  | .unreadEntity name =>
    "undefined entity " ++ String.ofList (takeOctets shownOctets ('&' :: name.toList ++ [';']))

/-- A cause and the number of characters that follow its place. -/
structure Fault where
  cause : Cause
  left : Nat
  deriving DecidableEq, Repr

/-- A cause and its place; columns count from zero. -/
structure Error where
  cause : Cause
  line : Nat
  column : Nat
  deriving DecidableEq, Repr

/-- Line breaks in a text: line feeds, and carriage returns without one after them. -/
def lineBreaks : List Char → Nat
  | [] => 0
  | '\r' :: '\n' :: rest => lineBreaks rest + 1
  | c :: rest => (if c == '\n' || c == '\r' then 1 else 0) + lineBreaks rest

def Error.ofFault (text : List Char) (f : Fault) : Error :=
  let before := text.take (text.length - f.left)
  { cause := f.cause
    line := lineBreaks before + 1
    column := (before.reverse.takeWhile fun c => c != '\n' && c != '\r').length }

def Error.message (e : Error) : String :=
  e.cause.message ++ ": line " ++ toString e.line ++ ", column " ++ toString e.column

end ServiceLease.Xml
