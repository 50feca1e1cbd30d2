/-! Integers in decimal text. A number with more digits than `digitLimit` is kept
and compared like any other but has no text. -/
namespace ServiceLease.Decimal

/-- The most decimal digits a written or read integer may have. -/
def digitLimit : Nat := 4300

def digits : Int → List Char
  | .ofNat n => Nat.toDigits 10 n
  | .negSucc n => '-' :: Nat.toDigits 10 (n + 1)

def digitCount (n : Int) : Nat := (Nat.toDigits 10 n.natAbs).length

/-- Whether an integer has a text. -/
def fits (n : Int) : Bool := digitCount n ≤ digitLimit

def text (n : Int) : String := String.ofList (digits n)

/-- The number that a sequence of digit values denotes, most significant first. -/
def valueOf (ds : List Nat) : Nat := ds.foldl (fun n d => 10 * n + d) 0

theorem text_toList (n : Int) : (text n).toList = digits n := String.toList_ofList

theorem digits_of_nonneg {n : Int} (h : 0 ≤ n) : digits n = Nat.toDigits 10 n.natAbs := by
  cases n with
  | ofNat n => rfl
  | negSucc n => simp at h

theorem digits_of_neg {n : Int} (h : n < 0) : digits n = '-' :: Nat.toDigits 10 n.natAbs := by
  cases n with
  | ofNat n => exact absurd h (Int.not_lt.2 (Int.natCast_nonneg n))
  | negSucc n => rfl

end ServiceLease.Decimal
