/-! Numbers of the binary64 format. A finite one is a significand below `2^53` times
a power of two, counted in units of `2^-1074`, the least positive number; all
arithmetic is on natural numbers and rounds to nearest, ties to even. -/
namespace ServiceLease

inductive Binary64 where
  | nan
  | infinity (negative : Bool)
  /-- `significand * 2^scale` units. -/
  | finite (negative : Bool) (significand : Nat) (scale : Nat)
  deriving DecidableEq, Repr

namespace Binary64

/-- `2^unitScale` units make one. -/
def unitScale : Nat := 1074

def significandLimit : Nat := Nat.pow 2 53

/-- The scale of the numbers from `2^1023` up. -/
def scaleLimit : Nat := 2045

/-- `num / den` rounded to an integer, a half to the even one. -/
def roundHalfEven (num den : Nat) : Nat :=
  let q := num / den
  let r := num % den
  if 2 * r > den || (2 * r == den && q % 2 == 1) then q + 1 else q

def ofUnits (negative : Bool) (num den : Nat) : Binary64 :=
  let scale := (num / den).log2 + 1 - 53
  let m := roundHalfEven num (den * Nat.pow 2 scale)
  let (m, scale) := if m == significandLimit then (significandLimit / 2, scale + 1) else (m, scale)
  if scale ≤ scaleLimit then .finite negative m scale else .infinity negative

def ofDecimal (negative : Bool) (digits : Nat) (exponent : Int) : Binary64 :=
  let magnitude := exponent + (Nat.toDigits 10 digits).length
  if digits == 0 || magnitude < -330 then .finite negative 0 0
  else if magnitude > 310 then .infinity negative
  else if 0 ≤ exponent then
    ofUnits negative (digits * Nat.pow 10 exponent.toNat * Nat.pow 2 unitScale) 1
  else
    ofUnits negative (digits * Nat.pow 2 unitScale) (Nat.pow 10 (-exponent).toNat)

def units (significand scale : Nat) : Nat := significand * Nat.pow 2 scale

/-- Whether a number is zero or less; NaN is not. -/
def notPositive : Binary64 → Bool
  | .nan => false
  | .infinity negative => negative
  | .finite negative m _ => negative || m == 0

def whole (negative : Bool) (m scale : Nat) : Int × Bool :=
  let one := Nat.pow 2 unitScale
  let n : Nat := units m scale / one
  (if negative then -n else n, units m scale % one == 0)

/-- The product with an integer, rounded once. -/
def scaleBy (factor : Nat) : Binary64 → Binary64
  | .nan => .nan
  | .infinity negative => .infinity negative
  | .finite negative m scale => ofUnits negative (units m scale * factor) 1

end Binary64

end ServiceLease
