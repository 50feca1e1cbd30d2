import ServiceLease.Number.Binary64

/-! The decimal text of a binary64 number: the fewest digits that read back as the
same number, and of those the nearest to it. -/
namespace ServiceLease.Binary64

structure Decimal10 where
  digits : Nat
  exponent : Int

/-- What reads back as a given number: everything between `low` and `high`, in
`den`-ths, the ends included when `closed`. -/
structure Interval where
  low : Nat
  value : Nat
  high : Nat
  den : Nat
  closed : Bool

def Interval.has (i : Interval) (num : Nat) : Bool :=
  if i.closed then i.low ≤ num && num ≤ i.high else i.low < num && num < i.high

/-- The interval of `m * 2^scale` units, in quarters of `2^-1074`. The lower half is
narrower at a power of two. -/
def interval (m scale : Nat) : Interval :=
  let below := if m == significandLimit / 2 && scale != 0 then 1 else 2
  { low := (4 * m - below) * Nat.pow 2 scale
    value := 4 * m * Nat.pow 2 scale
    high := (4 * m + 2) * Nat.pow 2 scale
    den := Nat.pow 2 (unitScale + 2)
    closed := m % 2 == 0 }

def Interval.onGrid (i : Interval) (exponent : Int) : Interval :=
  if 0 ≤ exponent then { i with den := i.den * Nat.pow 10 exponent.toNat }
  else
    let p := Nat.pow 10 (-exponent).toNat
    { i with low := i.low * p, value := i.value * p, high := i.high * p }

def Interval.nearest? (i : Interval) (exponent : Int) : Option Decimal10 :=
  let g := i.onGrid exponent
  let down := g.value / g.den
  let up := down + 1
  let twice := 2 * (g.value % g.den)
  let first := if twice < g.den || (twice == g.den && down % 2 == 0) then down else up
  let second := if first == down then up else down
  if g.has (first * g.den) then some ⟨first, exponent⟩
  else if g.has (second * g.den) then some ⟨second, exponent⟩
  else none

/-- The exponent of ten of the leading digit, from an estimate that is at most one
too small. -/
def leading (i : Interval) : Int :=
  let bits : Int := (i.value.log2 : Int) - (i.den.log2 : Int)
  let guess : Int := Int.fdiv (bits * 30103) 100000 - 1
  let reaches (e : Int) : Bool := (i.onGrid e).den ≤ (i.onGrid e).value
  if reaches (guess + 2) then guess + 2 else if reaches (guess + 1) then guess + 1 else guess

/-- The first grid with a point in the interval, from `10^exponent` on through `finer`
finer ones; past the last of them the point below the value. -/
def shortestFrom (i : Interval) (exponent : Int) : Nat → Decimal10
  | 0 => ⟨(i.onGrid exponent).value / (i.onGrid exponent).den, exponent⟩
  | finer + 1 =>
    match i.nearest? exponent with
    | some d => d
    | none => shortestFrom i (exponent - 1) finer

def shortest (m scale : Nat) : Decimal10 :=
  let i := interval m scale
  shortestFrom i (leading i) 17

/-- How a decimal is laid out. The point stands after `point` digits; positional
notation is used while `lowest < point ≤ highest`. -/
structure Layout where
  lowest : Int
  highest : Int

def layout : Layout := ⟨-4, 16⟩

def zeros (n : Int) : List Char := List.replicate n.toNat '0'

def exponentText (e : Int) : List Char :=
  let ds := Nat.toDigits 10 e.natAbs
  (if e < 0 then '-' else '+') :: (if ds.length < 2 then '0' :: ds else ds)

def Decimal10.write (d : Decimal10) : List Char :=
  let all := Nat.toDigits 10 d.digits
  let ds := (all.reverse.dropWhile (· == '0')).reverse
  let point : Int := all.length + d.exponent
  let count : Int := ds.length
  if layout.lowest < point && point ≤ layout.highest then
    if point ≤ 0 then '0' :: '.' :: zeros (-point) ++ ds
    else if count ≤ point then ds ++ zeros (point - count) ++ ['.', '0']
    else ds.take point.toNat ++ '.' :: ds.drop point.toNat
  else
    let head := ds.take 1
    let tail := ds.drop 1
    head ++ (if tail.isEmpty then [] else '.' :: tail) ++ 'e' :: exponentText (point - 1)

def digitText : Binary64 → List Char
  | .nan => "nan".toList
  | .infinity negative => (if negative then ['-'] else []) ++ "inf".toList
  | .finite negative m scale =>
    (if negative then ['-'] else []) ++ (if m == 0 then "0.0".toList else (shortest m scale).write)

def text (x : Binary64) : String := String.ofList x.digitText

end ServiceLease.Binary64
