import ServiceLease.Number.Decimal
import ServiceLease.Text.Blank
import ServiceLease.Text.Digit

/-! Integers read from text: an optional sign, then digits with single underscores
allowed between them. Values of wire fields admit ASCII digits, any number of
leading zeros with underscores as they please, a minus behind these, and a fraction of
zeros; text in a document admits the digits of every script and counts leading zeros
against the digit limit. -/
namespace ServiceLease.Numeral

/-- Digit values of a text that is digits with single underscores between them. -/
def grouped (digit? : Char → Option Nat) : List Char → Option (List Nat)
  | [] => none
  | [c] => (digit? c).map ([·])
  | c :: '_' :: rest => (digit? c).bind fun d => (grouped digit? rest).map (d :: ·)
  | c :: rest => (digit? c).bind fun d => (grouped digit? rest).map (d :: ·)

/-- Splits off a sign; `true` is negative. -/
def sign : List Char → Bool × List Char
  | '-' :: rest => (true, rest)
  | '+' :: rest => (false, rest)
  | rest => (false, rest)

def signed (negative : Bool) (n : Nat) : Int := if negative then -n else n

inductive Refusal where
  | malformed
  | tooLong
  deriving DecidableEq, Repr

/-- Drops a point and the zeros after it; a point without zeros, or with anything
else after it, stays. -/
def dropZeroFraction (s : List Char) : List Char :=
  let whole := s.takeWhile (· != '.')
  match s.dropWhile (· != '.') with
  | '.' :: '0' :: rest => if rest.all (· == '0') then whole else s
  | _ => s

/-- What is left of a run of zeros and underscores that ends in `last`: nothing where a
digit or a minus follows, and `last` otherwise. -/
def afterZeros (last : Char) : List Char → List Char
  | [] => [last]
  | c :: rest =>
    if c == '0' || c == '_' then afterZeros c rest
    else if c.isDigit || c == '-' then c :: rest
    else last :: c :: rest

/-- Splits off a minus behind leading zeros, and an underscore after it, if there was no
minus before. -/
def innerSign : Bool → List Char → Bool × List Char
  | false, '-' :: '_' :: rest => (true, rest)
  | false, '-' :: rest => (true, rest)
  | negative, rest => (negative, rest)

def dropZeros (negative : Bool) : List Char → Bool × List Char
  | '0' :: rest => innerSign negative (afterZeros '0' rest)
  | s => (negative, s)

def significant (ds : List Nat) : List Nat := ds.dropWhile (· == 0)

def leads (ds : List Nat) : Bool := ds.head? != some 0 || ds.length == 1

/-- Releases of the reader differ in whether a minus counts against the digit limit. -/
def charge (minusCounts negative : Bool) : Nat := if minusCounts && negative then 1 else 0

def count (minusCounts negative : Bool) (ds : List Nat) : Nat :=
  (significant ds).length + charge minusCounts negative

/-- Whether a text begins with more digits than the limit, the first of them no zero,
and with nothing but a minus before them. What follows them is not looked at then. -/
def startsTooLong (minusCounts : Bool) (s : List Char) : Bool :=
  let (negative, body) := match s with
    | '-' :: rest => (true, rest)
    | rest => (false, rest)
  let run := body.takeWhile (·.isDigit)
  run.head? != some '0' && Decimal.digitLimit < run.length + charge minusCounts negative

/-- The number in the text of a wire field. White space around it does not count. A
numeral is refused for its length only if the text begins with its digits, and as
malformed otherwise. -/
def ofField (minusCounts : Bool) (s : String) : Except Refusal Int :=
  if startsTooLong minusCounts s.toList then .error .tooLong
  else
    let (front, body) := sign (Text.trim Text.isWhiteSpace s.toList)
    let (negative, digits) := dropZeros front body
    match grouped Text.asciiDigit? (dropZeroFraction digits) with
    | none => .error .malformed
    | some ds =>
      if leads ds && count minusCounts negative ds ≤ Decimal.digitLimit then
        .ok (signed negative (Decimal.valueOf ds))
      else .error .malformed

/-- The number in the text of a document element, already trimmed. -/
def ofElementText (s : List Char) : Option Int :=
  let (negative, body) := sign s
  match grouped Text.decimalDigit? body with
  | none => none
  | some ds =>
    if ds.length ≤ Decimal.digitLimit then some (signed negative (Decimal.valueOf ds)) else none

end ServiceLease.Numeral
