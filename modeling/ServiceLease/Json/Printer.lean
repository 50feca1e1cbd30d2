import ServiceLease.Number.Decimal
import ServiceLease.Text.Hex
import ServiceLease.Value

/-! Writing JSON on one line, in ASCII: a comma and a colon are followed by a space,
and every character outside printable ASCII is written in UTF-16 units. -/
namespace ServiceLease.Json

def unitEscape (n : Nat) : List Char := '\\' :: 'u' :: Text.hex 4 n

def writeChar (c : Char) : List Char :=
  if c == '"' then ['\\', '"']
  else if c == '\\' then ['\\', '\\']
  else if c == '\n' then ['\\', 'n']
  else if c == '\r' then ['\\', 'r']
  else if c == '\t' then ['\\', 't']
  else if c == '\x08' then ['\\', 'b']
  else if c == '\x0c' then ['\\', 'f']
  else if 0x20 ≤ c.toNat && c.toNat < 0x7F then [c]
  else if c.toNat < 0x10000 then unitEscape c.toNat
  else
    let n := c.toNat - 0x10000
    unitEscape (0xD800 + n / 0x400) ++ unitEscape (0xDC00 + n % 0x400)

/-- A surrogate is written as the unit it is. -/
def writeCode (n : Nat) : List Char := if Text.isSurrogate n then unitEscape n else writeChar (Char.ofNat n)

def writeString (s : String) : List Char := '"' :: s.toList.flatMap writeChar ++ ['"']

def writeFloat : Binary64 → List Char
  | .nan => "NaN".toList
  | .infinity negative => if negative then "-Infinity".toList else "Infinity".toList
  | x => x.digitText

mutual

def write : Value → List Char
  | .null => "null".toList
  | .bool b => if b then "true".toList else "false".toList
  | .int n => Decimal.digits n
  | .float x => writeFloat x
  | .text s => writeString s
  | .broken t => '"' :: t.codes.flatMap writeCode ++ ['"']
  | .list items => '[' :: writeItems items ++ [']']
  | .object members => '{' :: writeMembers members ++ ['}']

def writeItems : List Value → List Char
  | [] => []
  | [v] => write v
  | v :: rest => write v ++ ',' :: ' ' :: writeItems rest

def writeMembers : List (String × Value) → List Char
  | [] => []
  | [(name, v)] => writeString name ++ ':' :: ' ' :: write v
  | (name, v) :: rest => writeString name ++ ':' :: ' ' :: write v ++ ',' :: ' ' :: writeMembers rest

end

mutual

def writable : Value → Bool
  | .int n => Decimal.fits n
  | .list items => itemsWritable items
  | .object members => membersWritable members
  | _ => true

def itemsWritable : List Value → Bool
  | [] => true
  | v :: rest => writable v && itemsWritable rest

def membersWritable : List (String × Value) → Bool
  | [] => true
  | (_, v) :: rest => writable v && membersWritable rest

end

def render? (v : Value) : Option String :=
  if writable v then some (String.ofList (write v)) else none

end ServiceLease.Json
