import ServiceLease.Xml.Prolog.Token
import ServiceLease.Xml.Value

/-! The declarations of a document. Tokens are taken in one at a time, and the first one
that does not fit is refused where it stands. -/
namespace ServiceLease.Xml.Prolog

/-- What an identifier of something outside the document is given for. -/
inductive Owner where
  | doctype
  | entity (name : String)
  | parameter
  /-- A notation, which names the format of unparsed entities. -/
  | format
  deriving DecidableEq, Repr

inductive Spot where
  | start
  | doctypeName
  | doctypeBody
  | subset
  | doctypeEnd
  | finish
  | publicId (o : Owner)
  | systemId (o : Owner)
  | identified (o : Owner)
  | entityName
  | parameterName
  | entityBody (o : Owner)
  | entityFormat (entity : String)
  | formatName
  | formatBody
  | formatSystem
  | ruleElement
  | ruleName (element : String)
  | ruleType (element : String) (name : Written)
  | choiceOpening (element : String) (name : Written)
  /-- A word among those an attribute may have; `names` admits names only. -/
  | choice (element : String) (name : Written) (names : Bool)
  | choiceNext (element : String) (name : Written) (names : Bool)
  | ruleDefault (element : String) (name : Written) (tokenized : Bool)
  | ruleFixed (element : String) (name : Written) (tokenized : Bool)
  | modelName
  | model
  | modelGroup
  | mixedNext
  | mixedName
  | mixedTail
  /-- A part of a content model; `groups` are the connectors of the open groups. -/
  | part (groups : List (Option Char))
  | partNext (groups : List (Option Char))
  /-- Only the end of the declaration is left. -/
  | closing
  deriving DecidableEq, Repr

structure State where
  spot : Spot
  dtd : Dtd
  allowance : Nat
  spent : Nat

namespace State

def goTo (s : State) (spot : Spot) : Except Fault State := .ok { s with spot }

def isPublicIdChar (c : Char) : Bool :=
  c.isAlphanum || " \r\n-'()+,./:=?;!*#@$_%".toList.contains c

def checkPublicId (after : List Char) : List Char → Except Fault Unit
  | [] => .ok ()
  | c :: rest =>
    if isPublicIdChar c then checkPublicId after rest
    else .error ⟨.badPublicId, rest.length + 1 + after.length⟩

/-- The text that an entity is declared to stand for. References to characters are
replaced, those to entities stay. `after` follows the text. -/
def entityText (after : List Char) (s : List Char) : Except Fault (List Char) :=
  let place (cause : Cause) (rest : List Char) : Fault := ⟨cause, rest.length + after.length⟩
  match s with
  | [] => .ok []
  | '&' :: rest =>
    match _h : Scan.reference rest with
    | .error .ended => .error (place .invalidToken s)
    | .error (.unexpected r) => .error (place .invalidToken r)
    | .ok (.character none, _) => .error (place .badCharacterNumber s)
    | .ok (.character (some c), more) => (entityText after more).map (c :: ·)
    | .ok (.entity name, more) => (entityText after more).map (('&' :: name.toList ++ [';']) ++ ·)
  | '%' :: rest =>
    match percent rest with
    | .ok (.reference, _) => .error (place .parameterReference s)
    | .ok _ => .error (place .invalidToken rest)
    | .error .ended => .error (place .invalidToken s)
    | .error (.unexpected r) => .error (place .invalidToken r)
  | '\r' :: '\n' :: rest => (entityText after rest).map ('\n' :: ·)
  | c :: rest => (entityText after rest).map ((if c == '\r' then '\n' else c) :: ·)
termination_by s.length
decreasing_by
  all_goals first
    | exact Nat.lt_succ_of_lt (Scan.reference_shorter _h)
    | (simp only [List.length_cons]; omega)

/-- Declares an entity by its text, or nothing for a parameter entity. -/
def declareText (s : State) (o : Owner) (literal after : List Char) : Except Fault State :=
  if s.dtd.listens then do
    let text ← entityText after literal
    match o with
    | .entity name => .ok { s with spot := .closing, dtd := s.dtd.addEntity name (.internal text) }
    | _ => s.goTo .closing
  else s.goTo .closing

def declareRule (s : State) (element : String) (name : Written) (tokenized : Bool)
    (standard : Option (List Char)) : State :=
  { s with spot := .ruleName element, dtd := s.dtd.addRule ⟨element, name, tokenized, standard⟩ }

def declareDefault (s : State) (element : String) (name : Written) (tokenized : Bool)
    (start literal after : List Char) : Except Fault State :=
  if s.dtd.listens then
    match Value.resolve ⟨s.dtd, s.allowance, []⟩ tokenized literal s.spent with
    | .error ⟨cause, some r⟩ => .error ⟨cause, r.length + after.length⟩
    | .error ⟨cause, none⟩ => .error ⟨cause, start.length⟩
    | .ok (value, spent) => .ok ({ s with spent }.declareRule element name tokenized (some value))
  else s.goTo (.ruleName element)

/-- The types of attributes that are written as one name, and whether their values are
tokenized. -/
def namedTypes : List (String × Bool) :=
  [("CDATA", false), ("ID", true), ("IDREF", true), ("IDREFS", true), ("ENTITY", true),
    ("ENTITIES", true), ("NMTOKEN", true), ("NMTOKENS", true)]

def join (s : State) (connector : Char) : List (Option Char) → Option (Except Fault State)
  | [] => none
  | known :: outer =>
    if known.all (· == connector) then some (s.goTo (.part (some connector :: outer))) else none

def leave (s : State) : List (Option Char) → Except Fault State
  | _ :: next :: outer => s.goTo (.partNext (next :: outer))
  | _ => s.goTo .closing

def accept (s : State) (start : List Char) : Spot → Token → Option (Except Fault State)
  | .start, .aside => s.goTo .start
  | .start, .opening "DOCTYPE" => s.goTo .doctypeName
  | .doctypeName, .name _ none => s.goTo .doctypeBody
  | .doctypeBody, .openBracket => s.goTo .subset
  | .doctypeBody, .closing => s.goTo .finish
  | .doctypeBody, .name ⟨none, "SYSTEM"⟩ none => s.goTo (.systemId .doctype)
  | .doctypeBody, .name ⟨none, "PUBLIC"⟩ none => s.goTo (.publicId .doctype)
  | .identified .doctype, .openBracket => s.goTo .subset
  | .identified .doctype, .closing => s.goTo .finish
  | .doctypeEnd, .closing => s.goTo .finish
  | .finish, .aside => s.goTo .finish
  | .subset, .aside => s.goTo .subset
  | .subset, .reference => some (.ok { s with dtd := { s.dtd with interrupted := true } })
  | .subset, .closeBracket => s.goTo .doctypeEnd
  | .subset, .opening "ENTITY" => s.goTo .entityName
  | .subset, .opening "ATTLIST" => s.goTo .ruleElement
  | .subset, .opening "ELEMENT" => s.goTo .modelName
  | .subset, .opening "NOTATION" => s.goTo .formatName
  | .publicId o, .literal text after => some do
    checkPublicId after text
    match o with
    | .doctype => .ok { s with spot := .systemId o, dtd := { s.dtd with external := true } }
    | .format => s.goTo .formatSystem
    | o => s.goTo (.systemId o)
  | .systemId .doctype, .literal .. =>
    some (.ok { s with spot := .identified .doctype, dtd := { s.dtd with external := true } })
  | .systemId .format, .literal .. => s.goTo .closing
  | .systemId o, .literal .. => s.goTo (.identified o)
  | .entityName, .percent => s.goTo .parameterName
  | .entityName, .name ⟨none, n⟩ none => s.goTo (.entityBody (.entity n))
  | .parameterName, .name ⟨none, _⟩ none => s.goTo (.entityBody .parameter)
  | .entityBody o, .literal text after => some (s.declareText o text after)
  | .entityBody o, .name ⟨none, "SYSTEM"⟩ none => s.goTo (.systemId o)
  | .entityBody o, .name ⟨none, "PUBLIC"⟩ none => s.goTo (.publicId o)
  | .identified (.entity n), .closing =>
    some (.ok { s with spot := .subset, dtd := s.dtd.addEntity n .external })
  | .identified (.entity n), .name ⟨none, "NDATA"⟩ none => s.goTo (.entityFormat n)
  | .entityFormat n, .name ⟨none, _⟩ none =>
    some (.ok { s with spot := .closing, dtd := s.dtd.addEntity n .unparsed })
  | .identified .parameter, .closing => s.goTo .subset
  | .formatName, .name ⟨none, _⟩ none => s.goTo .formatBody
  | .formatBody, .name ⟨none, "SYSTEM"⟩ none => s.goTo (.systemId .format)
  | .formatBody, .name ⟨none, "PUBLIC"⟩ none => s.goTo (.publicId .format)
  | .formatSystem, .literal .. => s.goTo .closing
  | .formatSystem, .closing => s.goTo .subset
  | .ruleElement, .name w none => s.goTo (.ruleName w.text)
  | .ruleName _, .closing => s.goTo .subset
  | .ruleName e, .name w none => s.goTo (.ruleType e w)
  | .ruleType e w, .openParen => s.goTo (.choice e w false)
  | .ruleType e w, .name ⟨none, "NOTATION"⟩ none => s.goTo (.choiceOpening e w)
  | .ruleType e w, .name ⟨none, type⟩ none =>
    (namedTypes.lookup type).map fun tokenized => s.goTo (.ruleDefault e w tokenized)
  | .choiceOpening e w, .openParen => s.goTo (.choice e w true)
  | .choice e w names, .name v none =>
    if names && v.qualifier.isSome then none else s.goTo (.choiceNext e w names)
  | .choice e w false, .word => s.goTo (.choiceNext e w false)
  | .choiceNext e w _, .closeParen none => s.goTo (.ruleDefault e w true)
  | .choiceNext e w names, .bar => s.goTo (.choice e w names)
  | .ruleDefault e w tokenized, .keyword "IMPLIED" => some (.ok (s.declareRule e w tokenized none))
  | .ruleDefault e w tokenized, .keyword "REQUIRED" => some (.ok (s.declareRule e w tokenized none))
  | .ruleDefault e w tokenized, .keyword "FIXED" => s.goTo (.ruleFixed e w tokenized)
  | .ruleDefault e w tokenized, .literal text after => some (s.declareDefault e w tokenized start text after)
  | .ruleFixed e w tokenized, .literal text after => some (s.declareDefault e w tokenized start text after)
  | .modelName, .name _ none => s.goTo .model
  | .model, .name ⟨none, "EMPTY"⟩ none => s.goTo .closing
  | .model, .name ⟨none, "ANY"⟩ none => s.goTo .closing
  | .model, .openParen => s.goTo .modelGroup
  | .modelGroup, .keyword "PCDATA" => s.goTo .mixedNext
  | .modelGroup, .openParen => s.goTo (.part [none, none])
  | .modelGroup, .name _ _ => s.goTo (.partNext [none])
  | .mixedNext, .closeParen none => s.goTo .closing
  | .mixedNext, .closeParen (some '*') => s.goTo .closing
  | .mixedNext, .bar => s.goTo .mixedName
  | .mixedName, .name _ none => s.goTo .mixedTail
  | .mixedTail, .closeParen (some '*') => s.goTo .closing
  | .mixedTail, .bar => s.goTo .mixedName
  | .part groups, .openParen => s.goTo (.part (none :: groups))
  | .part groups, .name _ _ => s.goTo (.partNext groups)
  | .partNext groups, .closeParen _ => s.leave groups
  | .partNext groups, .comma => s.join ',' groups
  | .partNext groups, .bar => s.join '|' groups
  | .closing, .closing => s.goTo .subset
  | _, _ => none

def step (s : State) (l : Lexeme Token) : Except Fault State :=
  match s.accept l.start s.spot l.token, l.token with
  | some r, _ => r
  | none, .declaration => .error ⟨.misplacedDeclaration, l.start.length⟩
  | none, .reference => .error ⟨.parameterReference, l.start.length⟩
  | none, _ => .error ⟨.unexpectedMarkup, l.start.length⟩

def rootFits (s : State) : Bool := s.spot == .start || s.spot == .finish

end State

def read (ending : Ending) : State → List (Lexeme Token) → Except Fault (Dtd × Nat × List Char)
  | _, [] =>
    match ending with
    | .complete left => .error ⟨.noElement, left⟩
    | .broken f => .error f
  | s, l :: rest =>
    match l.token, s.rootFits with
    | .root, true => .ok (s.dtd, s.spent, l.start)
    | _, _ =>
      match s.step l with
      | .error f => .error f
      | .ok s => read ending s rest

def readRest (ending : Ending) : List (Lexeme Token) → Except Fault Unit
  | [] =>
    match ending with
    | .complete _ => .ok ()
    | .broken f => .error f
  | l :: rest =>
    match l.token with
    | .aside => readRest ending rest
    | _ => .error ⟨.junkAfterElement, l.start.length⟩

end ServiceLease.Xml.Prolog
