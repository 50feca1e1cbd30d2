import ServiceLease.Xml.Lexeme

/-! The characters of a document. Where the first or the second octet is null, the
octets are taken in pairs, as units of sixteen bits. -/
namespace ServiceLease.Xml

/-- The characters to be read; `halved` says that one octet without its partner follows
them. -/
structure Source where
  chars : List Char
  halved : Bool
  deriving DecidableEq, Repr

namespace Source

def pairs (join : Nat → Nat → Nat) : List UInt8 → List Nat × Bool
  | [] => ([], false)
  | [_] => ([], true)
  | a :: b :: rest =>
    let (units, halved) := pairs join rest
    (join a.toNat b.toNat :: units, halved)

/-- The characters of units. The first half of a character takes the next unit with it;
the second half alone becomes null, which no document holds. -/
def ofUnits : List Nat → List Char
  | [] => []
  | [u] => [Char.ofNat u]
  | u :: v :: rest =>
    if 0xD800 ≤ u ∧ u < 0xDC00 then
      Char.ofNat (0x10000 + u % 0x400 * 0x400 + v % 0x400) :: ofUnits rest
    else Char.ofNat u :: ofUnits (v :: rest)

def paired (join : Nat → Nat → Nat) (s : List Char) : Source :=
  let (units, halved) := pairs join (String.ofList s).toUTF8.toList
  ⟨ofUnits units, halved⟩

def highFirst (a b : Nat) : Nat := a * 0x100 + b

def lowFirst (a b : Nat) : Nat := b * 0x100 + a

def ofChars (s : List Char) : Source :=
  match s with
  | '\x00' :: _ => paired highFirst s
  | c :: '\x00' :: _ => if c.toNat < 0x80 then paired lowFirst s else ⟨s, false⟩
  | _ => ⟨s, false⟩

/-- Where an octet without its partner follows, a text does not end but breaks off. -/
def close (s : Source) (t : Lexed τ) : Lexed τ :=
  match t.ending with
  | .complete left => if s.halved then { t with ending := .broken ⟨.unclosedToken, left⟩ } else t
  | .broken _ => t

end Source

end ServiceLease.Xml
