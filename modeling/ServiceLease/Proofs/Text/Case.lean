import ServiceLease.Proofs.Xml.Written
import ServiceLease.Text.Case

/-! Case mappings and the characters of documents. A character that may occur in a
document is mapped to such characters only, and every other one to itself. Upper case
makes no colons. -/
namespace ServiceLease.Text

open Xml (isChar legalText xmlChar)

def legalSpan (first last : Int) : Bool := xmlChar.ranges.any fun r => r.1 ≤ first && last ≤ r.2

theorem isChar_ofNat {n first last : Int} (legal : legalSpan first last = true) (low : first ≤ n)
    (high : n ≤ last) : isChar (Char.ofNat n.toNat) = true := by
  obtain ⟨r, member, bounds⟩ := List.any_eq_true.1 legal
  rw [Bool.and_eq_true, decide_eq_true_eq, decide_eq_true_eq] at bounds
  have valid : n.toNat.isValidChar := by
    have spans : ∀ r ∈ xmlChar.ranges, r.2 < 0xD800 ∨ (0xDFFF < r.1 ∧ r.2 < 0x110000) := by decide
    have := spans r member
    rw [Nat.isValidChar]
    omega
  have code : (Char.ofNat n.toNat).toNat = n.toNat := by
    rw [Char.ofNat, dif_pos valid]
    rfl
  rw [isChar, CharClass.contains_iff]
  exact ⟨r, member, by omega, by omega⟩

theorem isChar_of_span {c : Char} {first last : Int} (legal : legalSpan first last = true) (low : first ≤ c.toNat)
    (high : c.toNat ≤ last) : isChar c = true := by
  have image := isChar_ofNat legal low high
  rwa [Int.toNat_natCast, Char.ofNat_toNat] at image

def CaseRun.legal (r : CaseRun) : Bool :=
  legalSpan r.first r.last && legalSpan (r.first + r.shift) (r.last + r.shift)

theorem isChar_shiftBy {runs : List CaseRun} (legal : runs.all CaseRun.legal = true) (c : Char) :
    isChar (shiftBy runs c) = isChar c := by
  rw [shiftBy]
  cases found : runs.find? (·.covers c.toNat) with
  | none => rfl
  | some r =>
    have covers := List.find?_some found
    have spans := List.all_eq_true.1 legal r (List.mem_of_find?_eq_some found)
    simp only [CaseRun.covers, CaseRun.legal, Bool.and_eq_true, decide_eq_true_eq] at covers spans
    obtain ⟨⟨low, high⟩, -⟩ := covers
    have image : isChar (Char.ofNat (c.toNat + r.shift).toNat) = true :=
      isChar_ofNat spans.2 (by omega) (by omega)
    rw [image, isChar_of_span spans.1 (by omega) (by omega)]

theorem upperRuns_legal : upperRuns.all CaseRun.legal = true := by decide +kernel

theorem lowerRuns_legal : lowerRuns.all CaseRun.legal = true := by decide +kernel

theorem upperSequences_legal :
    ∀ s ∈ upperSequences, legalSpan s.1 s.1 = true ∧ (s.2.map Char.ofNat).all isChar = true := by
  decide +kernel

theorem isChar_ascii {c : Char} (ascii : c.toNat < 0x80) :
    isChar c.toUpper = isChar c ∧ isChar c.toLower = isChar c := by
  have table : ∀ n < 0x80, isChar (Char.ofNat n).toUpper = isChar (Char.ofNat n) ∧
      isChar (Char.ofNat n).toLower = isChar (Char.ofNat n) := by decide +kernel
  rw [← Char.ofNat_toNat c]
  exact table c.toNat ascii

theorem all_isChar_upperOf (c : Char) : (upperOf c).all isChar = isChar c := by
  rw [upperOf]
  by_cases ascii : c.toNat < 0x80
  · simp [ascii, isChar_ascii ascii]
  rw [if_neg ascii]
  cases found : upperSequences.lookup c.toNat with
  | none => simp [isChar_shiftBy upperRuns_legal]
  | some codes =>
    obtain ⟨before, after, split, -⟩ := List.lookup_eq_some_iff.1 found
    obtain ⟨legal, image⟩ := upperSequences_legal (c.toNat, codes) (by rw [split]; simp)
    rw [isChar_of_span legal (Int.le_refl _) (Int.le_refl _)]
    exact image

/-- Upper case neither adds nor removes characters that may not occur. -/
theorem legalText_upper (s : String) : legalText (upper s) = legalText s := by
  rw [legalText, legalText, upper, String.toList_ofList]
  induction s.toList with
  | nil => rfl
  | cons c rest ih => rw [List.flatMap_cons, List.all_append, List.all_cons, all_isChar_upperOf, ih]

theorem all_isChar_lowerFrom (before rest : List Char) : (lowerFrom before rest).all isChar = rest.all isChar := by
  induction rest generalizing before with
  | nil => rfl
  | cons c rest ih =>
    rw [lowerFrom, List.all_append, List.all_cons, ih]
    congr 1
    by_cases ascii : c.toNat < 0x80
    · simp [ascii, isChar_ascii ascii]
    rw [if_neg ascii]
    by_cases sigma : c.toNat = 0x3A3
    · have span : legalSpan 0x3A3 0x3A3 = true := by decide
      have legal : isChar c = true := isChar_of_span span (by omega) (by omega)
      rw [if_pos sigma, legal]
      cases endsWord before rest <;> decide
    rw [if_neg sigma]
    by_cases dotted : c.toNat = 0x130
    · have span : legalSpan 0x130 0x130 = true := by decide
      have legal : isChar c = true := isChar_of_span span (by omega) (by omega)
      rw [if_pos dotted, legal]
      decide
    rw [if_neg dotted]
    simp [isChar_shiftBy lowerRuns_legal]

/-- Neither does lower case. -/
theorem legalText_lower (s : String) : legalText (lower s) = legalText s := by
  rw [legalText, lower, String.toList_ofList, all_isChar_lowerFrom]
  rfl

/-! Colons. -/

theorem toNat_of_ofNat {n : Nat} {c : Char} (same : Char.ofNat n = c) (other : c ≠ Char.ofNat 0) : n = c.toNat := by
  by_cases valid : n.isValidChar
  · rw [← same, Char.ofNat, dif_pos valid]
    rfl
  · rw [Char.ofNat, dif_neg valid] at same
    exact absurd same.symm other

theorem upperRuns_above_colon : ∀ r ∈ upperRuns, (0x3A : Int) < r.first + r.shift := by decide +kernel

theorem shiftBy_upperRuns_ne_colon {c : Char} (other : c ≠ ':') : shiftBy upperRuns c ≠ ':' := by
  rw [shiftBy]
  cases found : upperRuns.find? (·.covers c.toNat) with
  | none => exact other
  | some r =>
    have covers := List.find?_some found
    have above := upperRuns_above_colon r (List.mem_of_find?_eq_some found)
    simp only [CaseRun.covers, Bool.and_eq_true, decide_eq_true_eq] at covers
    obtain ⟨⟨low, -⟩, -⟩ := covers
    intro colon
    have code : (c.toNat + r.shift).toNat = 0x3A := toNat_of_ofNat colon (by decide)
    omega

theorem upperSequences_no_colon : ∀ s ∈ upperSequences, ':' ∉ s.2.map Char.ofNat := by decide +kernel

theorem toUpper_ne_colon {c : Char} (ascii : c.toNat < 0x80) (other : c ≠ ':') : c.toUpper ≠ ':' := by
  have table : ∀ n < 0x80, Char.ofNat n ≠ ':' → (Char.ofNat n).toUpper ≠ ':' := by decide +kernel
  rw [← Char.ofNat_toNat c] at other ⊢
  exact table c.toNat ascii other

theorem colon_not_mem_upperOf {c : Char} (other : c ≠ ':') : ':' ∉ upperOf c := by
  rw [upperOf]
  by_cases ascii : c.toNat < 0x80
  · rw [if_pos ascii, List.mem_singleton]
    exact (toUpper_ne_colon ascii other).symm
  rw [if_neg ascii]
  cases found : upperSequences.lookup c.toNat with
  | none =>
    rw [List.mem_singleton]
    exact (shiftBy_upperRuns_ne_colon other).symm
  | some codes =>
    obtain ⟨before, after, split, -⟩ := List.lookup_eq_some_iff.1 found
    exact upperSequences_no_colon (c.toNat, codes) (by rw [split]; simp)

/-- A text without colons has none in upper case. -/
theorem colon_not_mem_upper {s : String} (none : ':' ∉ s.toList) : ':' ∉ (upper s).toList := by
  rw [upper, String.toList_ofList, List.mem_flatMap]
  rintro ⟨c, member, colon⟩
  have other : c ≠ ':' := fun same => none (same ▸ member)
  exact colon_not_mem_upperOf other colon

end ServiceLease.Text
