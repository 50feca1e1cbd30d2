/-! Surrogates: code points that stand for no character. Two of them in a row are the
halves of a character in UTF-16; a text with any other is broken. -/
namespace ServiceLease.Text

def isHighSurrogate (n : Nat) : Bool := 0xD800 ≤ n && n < 0xDC00

def isLowSurrogate (n : Nat) : Bool := 0xDC00 ≤ n && n < 0xE000

def isSurrogate (n : Nat) : Bool := 0xD800 ≤ n && n < 0xE000

def joined (high low : Nat) : Nat := 0x10000 + (high - 0xD800) * 0x400 + (low - 0xDC00)

/-- The text of code points, with U+FFFD for what stands for no character. -/
def replaced (codes : List Nat) : String :=
  String.ofList (codes.map fun n => if isSurrogate n then Char.ofNat 0xFFFD else Char.ofNat n)

structure Broken where
  codes : List Nat
  unpaired : codes.any isSurrogate = true

def Broken.text (t : Broken) : String := replaced t.codes

end ServiceLease.Text
