import ServiceLease.Xml.Content
import ServiceLease.Xml.Dtd

/-! Attribute values: references are replaced, every literal blank counts as a space,
and in a tokenized value single spaces divide the tokens. -/
namespace ServiceLease.Xml

/-- What is wrong with a value; `rest` is the part of it from the place on, if that is in
the value itself. -/
structure Trouble where
  cause : Cause
  rest : Option (List Char)

/-- The characters of a value so far, last first, and the octets that entities gave. -/
structure Filling where
  chars : List Char
  spent : Nat

namespace Value

/-- Adds a character; a tokenized value takes a space only after another character. -/
def push (tokenized : Bool) (c : Char) (f : Filling) : Filling :=
  if tokenized && c == ' ' && f.chars.head?.getD ' ' == ' ' then f else { f with chars := c :: f.chars }

def fill (expand : String → Filling → Except Trouble Filling) (tokenized : Bool) (s : List Char)
    (f : Filling) : Except Trouble Filling :=
  match s with
  | [] => .ok f
  | '&' :: rest =>
    match _h : Scan.reference rest with
    | .error .ended => .error ⟨.invalidToken, some s⟩
    | .error (.unexpected r) => .error ⟨.invalidToken, some r⟩
    | .ok (.character none, _) => .error ⟨.badCharacterNumber, some s⟩
    | .ok (.character (some c), after) => fill expand tokenized after (push tokenized c f)
    | .ok (.entity name, after) =>
      match expand name f with
      | .error t => .error { t with rest := t.rest.map fun _ => s }
      | .ok f => fill expand tokenized after f
  | '<' :: _ => .error ⟨.invalidToken, some s⟩
  | '\r' :: '\n' :: rest => fill expand tokenized rest (push tokenized ' ' f)
  | c :: rest => fill expand tokenized rest (push tokenized (if isBlank c then ' ' else c) f)
termination_by s.length
decreasing_by
  all_goals first
    | exact Nat.lt_succ_of_lt (Scan.reference_shorter _h)
    | (simp only [List.length_cons]; omega)

/-- Adds the text of an entity. Each entity being expanded is a different one, so `depth`
need not be larger than their number. -/
def expand (tokenized : Bool) : Nat → Context → String → Filling → Except Trouble Filling
  | depth, c, name, f =>
    match predefined? name with
    | some p => .ok (push tokenized p f)
    | none =>
      match c.dtd.entities.lookup name with
      | none => if c.dtd.complete then .error ⟨.undefinedEntity, none⟩ else .ok f
      | some e =>
        if c.opened.contains name then .error ⟨.recursiveEntity, none⟩
        else
          match e, depth with
          | .unparsed, _ => .error ⟨.unparsedEntityReference, some []⟩
          | .external, _ => .error ⟨.externalEntityInAttribute, some []⟩
          | .internal _, 0 => .error ⟨.recursiveEntity, none⟩
          | .internal text, depth + 1 =>
            let spent := f.spent + Scan.octets text
            if spent > c.allowance then .error ⟨.amplification, none⟩
            else
              match fill (expand tokenized depth (c.opening name)) tokenized text { f with spent } with
              | .error t => .error ⟨t.cause, none⟩
              | .ok f => .ok f

def resolve (c : Context) (tokenized : Bool) (raw : List Char) (spent : Nat) :
    Except Trouble (List Char × Nat) :=
  match fill (expand tokenized c.depth c) tokenized raw ⟨[], spent⟩ with
  | .error t => .error t
  | .ok f =>
    let chars := if tokenized && f.chars.head? == some ' ' then f.chars.tail else f.chars
    .ok (chars.reverse, f.spent)

end Value

end ServiceLease.Xml
