import ServiceLease.Complaint
import ServiceLease.Number.Numeral
import ServiceLease.Value

/-! Which values may stand for an integer, a flag or a text, and for which one. -/
namespace ServiceLease.Coercion

/-- Whole floats are taken below `2^63` in magnitude. -/
def wholeLimit : Nat := Nat.pow 2 63

def integerOfFloat : Binary64 → Except Complaint Int
  | .nan => .error .notFinite
  | .infinity _ => .error .notFinite
  | .finite negative m scale =>
    let (n, exact) := Binary64.whole negative m scale
    if !exact then .error .fractional
    else if n.natAbs < wholeLimit then .ok n
    else .error .oversizedInteger

/-- An integer of any size, a flag as 0 or 1, a whole float, or a numeral. -/
def integerIn (minusCounts : Bool) : Value → Except Complaint Int
  | .int n => .ok n
  | .bool b => .ok (if b then 1 else 0)
  | .float x => integerOfFloat x
  | .text s => (Numeral.ofField minusCounts s).mapError fun
    | .malformed => .unreadableInteger
    | .tooLong => .oversizedInteger
  | .broken _ => .error .notUnicode
  | .null => .error .notInteger
  | .list _ => .error .notInteger
  | .object _ => .error .notInteger

def integer : Value → Except Complaint Int := integerIn false

def optionalInteger : Value → Except Complaint (Option Int)
  | .null => .ok none
  | v => (integer v).map some

def trueWords : List String := ["1", "on", "t", "true", "y", "yes"]

def falseWords : List String := ["0", "off", "f", "false", "n", "no"]

def flagOfInteger (n : Int) : Except Complaint Bool :=
  if n = 0 then .ok false else if n = 1 then .ok true else .error .unreadableFlag

/-- The case of ASCII letters does not matter, blanks do. -/
def flagOfWord (s : String) : Except Complaint Bool :=
  let word := String.ofList (s.toList.map Char.toLower)
  if trueWords.contains word then .ok true
  else if falseWords.contains word then .ok false
  else .error .unreadableFlag

def flag : Value → Except Complaint Bool
  | .bool b => .ok b
  | .text s => flagOfWord s
  | .broken _ => .error .notUnicode
  | .int n => if -(wholeLimit : Int) ≤ n ∧ n < wholeLimit then flagOfInteger n else .error .notFlag
  | .float x => match integerOfFloat x with
    | .ok n => flagOfInteger n
    | .error _ => .error .notFlag
  | .null => .error .notFlag
  | .list _ => .error .notFlag
  | .object _ => .error .notFlag

def text : Value → Except Complaint String
  | .text s => .ok s
  | .broken t => .ok t.text
  | _ => .error .notText

end ServiceLease.Coercion
