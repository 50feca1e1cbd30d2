import ServiceLease.Xml.Scan

/-! The declaration at the very beginning of a document: its version, perhaps its
encoding, and whether it stands alone. The encoding named there is not used. -/
namespace ServiceLease.Xml.Declaration

structure Item where
  start : List Char
  name : List Char
  valueStart : List Char
  value : List Char

def isValueChar (c : Char) : Bool := c.isAlphanum || c == '.' || c == '-' || c == '_'

/-- The value up to a quote, and the rest after it; or else where it does not fit. -/
def valueUpTo (mark : Char) : List Char → Except (List Char) (List Char × List Char)
  | [] => .error []
  | c :: rest =>
    if c == mark then .ok ([], rest)
    else if isValueChar c then (valueUpTo mark rest).map fun (v, after) => (c :: v, after)
    else .error (c :: rest)

def itemValue (start name : List Char) (s : List Char) : Except (List Char) (Item × List Char) :=
  match skipBlank s with
  | '=' :: rest =>
    match skipBlank rest with
    | mark :: rest =>
      if mark == '"' || mark == '\x27' then
        (valueUpTo mark rest).map fun (value, after) => (⟨start, name, rest, value⟩, after)
      else .error (mark :: rest)
    | [] => .error []
  | rest => .error rest

def item (s : List Char) : Except (List Char) (Option (Item × List Char)) :=
  match s with
  | [] => .ok none
  | c :: _ =>
    if !isBlank c then .error s
    else
      let start := skipBlank s
      let inName (c : Char) : Bool := !isBlank c && c != '=' && c.toNat < 0x80
      match start.takeWhile inName, start.dropWhile inName with
      | _, [] => if start.isEmpty then .ok none else .error []
      | [], rest => .error rest
      | name, rest => (itemValue start name rest).map some

def standalone : Option (Item × List Char) → Except (List Char) Bool
  | none => .ok false
  | some (i, rest) =>
    if i.name != "standalone".toList then .error i.start
    else if i.value != "yes".toList && i.value != "no".toList then .error i.valueStart
    else
      match skipBlank rest with
      | [] => .ok (i.value == "yes".toList)
      | rest => .error rest

/-- Whether the document stands alone, by the characters between target and end. Where
they do not fit, the rest of them is given. -/
def read (body : List Char) : Except (List Char) Bool := do
  match ← item body with
  | none => .error body
  | some (version, rest) =>
    if version.name != "version".toList then .error version.start
    else
      match ← item rest with
      | some (i, rest) =>
        if i.name == "encoding".toList then
          if i.value.head?.any Char.isAlpha then standalone (← item rest) else .error i.valueStart
        else standalone (some (i, rest))
      | none => .ok false

end ServiceLease.Xml.Declaration
