import ServiceLease.Text.Hex

/-! Reading UTF-8. Only the shortest form of a scalar value is accepted, and what rules
an octet sequence out is reported at its first octet. -/
namespace ServiceLease.Text.Utf8

inductive Reason where
  | badStart
  | badContinuation
  | truncated
  deriving DecidableEq, Repr

def Reason.message : Reason → String
  | .badStart => "invalid start byte"
  | .badContinuation => "invalid continuation byte"
  | .truncated => "unexpected end of data"

/-- `octets` begin at `start` and cannot be continued to a character. -/
structure Error where
  reason : Reason
  start : Nat
  octets : List UInt8
  deriving DecidableEq, Repr

def Error.message (e : Error) : String :=
  let place := match e.octets with
    | [b] => "byte 0x" ++ String.ofList (hex 2 b.toNat) ++ " in position " ++ toString e.start
    | bs => "bytes in position " ++ toString e.start ++ "-" ++ toString (e.start + bs.length - 1)
  "'utf-8' codec can't decode " ++ place ++ ": " ++ e.reason.message

abbrev Span := Nat × Nat

def Span.has (r : Span) (b : UInt8) : Bool := r.1 ≤ b.toNat && b.toNat ≤ r.2

def continuation : Span := (0x80, 0xBF)

/-- The bits that a first octet gives and the octets that must follow it. The spans
after E0, ED, F0 and F4 leave out overlong forms, surrogates and what lies beyond
U+10FFFF. -/
def opening (b : UInt8) : Option (Nat × List Span) :=
  let n := b.toNat
  if n < 0x80 then some (n, [])
  else if n < 0xC2 then none
  else if n < 0xE0 then some (n - 0xC0, [continuation])
  else if n == 0xE0 then some (0, [(0xA0, 0xBF), continuation])
  else if n == 0xED then some (0xD, [(0x80, 0x9F), continuation])
  else if n < 0xF0 then some (n - 0xE0, [continuation, continuation])
  else if n == 0xF0 then some (0, [(0x90, 0xBF), continuation, continuation])
  else if n < 0xF4 then some (n - 0xF0, [continuation, continuation, continuation])
  else if n == 0xF4 then some (4, [(0x80, 0x8F), continuation, continuation])
  else none

/-- A character of which `octets` have been read; `next` and then `due` must follow. -/
structure Pending where
  code : Nat
  next : Span
  due : List Span
  octets : List UInt8

def decodeFrom (start : Nat) : Option Pending → List UInt8 → Except Error (List Char)
  | none, [] => .ok []
  | some p, [] => .error ⟨.truncated, start, p.octets⟩
  | none, b :: rest =>
    match opening b with
    | none => .error ⟨.badStart, start, [b]⟩
    | some (code, []) => (decodeFrom (start + 1) none rest).map (Char.ofNat code :: ·)
    | some (code, next :: due) => decodeFrom start (some ⟨code, next, due, [b]⟩) rest
  | some p, b :: rest =>
    if p.next.has b then
      let code := p.code * 64 + (b.toNat - 0x80)
      let octets := p.octets ++ [b]
      match p.due with
      | [] => (decodeFrom (start + octets.length) none rest).map (Char.ofNat code :: ·)
      | next :: due => decodeFrom start (some ⟨code, next, due, octets⟩) rest
    else .error ⟨.badContinuation, start, p.octets⟩

def decode (octets : List UInt8) : Except Error (List Char) := decodeFrom 0 none octets

end ServiceLease.Text.Utf8
