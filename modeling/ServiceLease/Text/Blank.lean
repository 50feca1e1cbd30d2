import ServiceLease.Text.CharClass

/-! Blank characters and trimming. Numerals in wire data may be surrounded by
Unicode white space; text taken from a document loses the four information
separators as well. -/
namespace ServiceLease.Text

def whiteSpace : CharClass :=
  ⟨[(0x9, 0xD), (0x20, 0x20), (0x85, 0x85), (0xA0, 0xA0), (0x1680, 0x1680), (0x2000, 0x200A),
    (0x2028, 0x2029), (0x202F, 0x202F), (0x205F, 0x205F), (0x3000, 0x3000)]⟩

def isWhiteSpace (c : Char) : Bool := whiteSpace.contains c

/-- White space, and the separators U+001C to U+001F. -/
def isBlank (c : Char) : Bool :=
  isWhiteSpace c || (0x1C ≤ c.toNat && c.toNat ≤ 0x1F)

def trim (isPadding : Char → Bool) (s : List Char) : List Char :=
  ((s.dropWhile isPadding).reverse.dropWhile isPadding).reverse

/-- A text with no padding at either end is its own trimming. -/
theorem trim_eq_self {p : Char → Bool} {s : List Char}
    (first : ∀ c ∈ s.head?, p c = false) (last : ∀ c ∈ s.getLast?, p c = false) :
    trim p s = s := by
  have front : ∀ t : List Char, (∀ c ∈ t.head?, p c = false) → t.dropWhile p = t := by
    intro t ht
    cases t with
    | nil => rfl
    | cons c r => simp [List.dropWhile, ht c (by simp)]
  unfold trim
  rw [front s first, front s.reverse (by simpa using last), List.reverse_reverse]

/-- What follows text without padding does not bring that text into question. -/
theorem trim_append {p : Char → Bool} {s : List Char} (some : s ≠ []) (solid : ∀ c ∈ s, p c = false)
    (rest : List Char) :
    ∃ tail, trim p (s ++ rest) = s ++ tail := by
  have front : (s ++ rest).dropWhile p = s ++ rest := by
    cases s with
    | nil => exact absurd rfl some
    | cons c t => simp [solid c List.mem_cons_self]
  have back : s.reverse.dropWhile p = s.reverse := by
    cases h : s.reverse with
    | nil => rfl
    | cons c t => simp [solid c (List.mem_reverse.1 (by simp [h]))]
  rw [trim, front, List.reverse_append, List.dropWhile_append]
  split
  · exact ⟨[], by rw [back, List.reverse_reverse, List.append_nil]⟩
  · exact ⟨(rest.reverse.dropWhile p).reverse, by rw [List.reverse_append, List.reverse_reverse]⟩

end ServiceLease.Text
