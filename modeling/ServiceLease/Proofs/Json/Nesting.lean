import ServiceLease.Proofs.Json.Completeness

/-! Texts that need many levels. Lists in lists take one level each, and nothing is read of them where these are not
left. -/
namespace ServiceLease.Json

/-- A list without items within so many lists. -/
def nested : Nat → List Char
  | 0 => ['[', ']']
  | n + 1 => '[' :: (nested n ++ [']'])

theorem blank_nil : Blank [] := by simp [Blank]

theorem nested_opens (n : Nat) : Opens ']' (nested n) := by
  cases n <;> exact ⟨'[', _, rfl, by decide⟩

theorem length_nested (n : Nat) : (nested n).length = 2 * n + 2 := by
  induction n with
  | zero => rfl
  | succ n ih =>
    simp only [nested, List.length_cons, List.length_append, List.length_nil, ih]
    omega

theorem nested_text (n : Nat) : ValueText (n + 1) (nested n) := by
  induction n with
  | zero => exact .noItems blank_nil
  | succ n ih => exact .list (w := []) blank_nil (.last (w := []) ih blank_nil)

/-- The opening brackets alone take all levels there are. -/
theorem value_nested {levels n fuel : Nat} (k : List Char) (deep : levels ≤ n) (enough : 2 * levels < fuel) :
    value levels fuel (nested n ++ k) = .error (.tooDeep .list) := by
  induction levels generalizing n fuel k with
  | zero =>
    obtain ⟨fuel, rfl⟩ := Nat.exists_eq_succ_of_ne_zero (Nat.ne_of_gt enough)
    cases n <;> rfl
  | succ levels ih =>
    obtain ⟨n, rfl⟩ := Nat.exists_eq_succ_of_ne_zero (Nat.ne_of_gt (Nat.lt_of_lt_of_le (Nat.succ_pos levels) deep))
    obtain ⟨fuel, rfl⟩ : ∃ fuel', fuel = fuel' + 1 + 1 := ⟨fuel - 2, by omega⟩
    have inside : value levels fuel (nested n ++ ']' :: k) = .error (.tooDeep .list) :=
      ih (']' :: k) (Nat.le_of_succ_le_succ deep) (by omega)
    have opens : Opens ']' (nested n ++ ']' :: k) := (nested_opens n).append (']' :: k)
    calc value (levels + 1) (fuel + 1 + 1) (nested (n + 1) ++ k)
      _ = value (levels + 1) (fuel + 1 + 1) ('[' :: ([] ++ (nested n ++ ']' :: k))) := by simp [nested]
      _ = (items levels (fuel + 1) (nested n ++ ']' :: k)).map _ := value_of_items blank_nil opens
      _ = .error (.tooDeep .list) := by rw [items, inside]; rfl

theorem value_of_member_refused {levels fuel : Nat} (name : String) {s : List Char} {e : Refusal}
    (simple : plainText name = true) (enough : name.toList.length < fuel) (tight : skipSpace s = s)
    (inside : value levels fuel s = .error e) :
    value (levels + 1) (fuel + 1 + 1) ('{' :: '"' :: (name.toList ++ '"' :: ':' :: s)) = .error e := by
  have colon : isSpace ':' = false := by decide
  have quote : isSpace '"' = false := by decide
  simp [value, members, string_plain levels _ simple enough, skipSpace_cons quote, skipSpace_cons colon, tight, inside]

def nestedText (n : Nat) : String := String.ofList ('{' :: '"' :: ("x".toList ++ '"' :: ':' :: (nested n ++ ['}'])))

theorem nestedText_grammatical (n : Nat) : GrammaticalWithin (n + 2) (nestedText n).toList := by
  have name : StringText ['x', '"'] := .char (by decide) (by decide) (by decide) .closed
  have member : MemberText (n + 1) ('"' :: (['x', '"'] ++ ([] ++ ':' :: ([] ++ nested n)))) :=
    .colon name blank_nil blank_nil (nested_text n)
  have object : ValueText (n + 2) (nestedText n).toList := by
    rw [nestedText, String.toList_ofList]
    exact .object (w := []) blank_nil (.last (w := []) member blank_nil)
  exact ⟨[], _, [], by simp, blank_nil, object, blank_nil⟩

/-- However many levels are left, some object needs more of them. -/
theorem read_nestedText (levels : Nat) : ∃ need, readIn levels (nestedText levels) = .error (.tooDeep need) := by
  cases levels with
  | zero => exact ⟨.object, rfl⟩
  | succ inner =>
    have length : 2 * (nestedText (inner + 1)).toList.length + 1 = 4 * inner + 19 + 1 + 1 := by
      simp [nestedText, length_nested]
      omega
    have tight : skipSpace (nested (inner + 1) ++ ['}']) = nested (inner + 1) ++ ['}'] :=
      skipSpace_opens (w := []) blank_nil ((nested_opens (inner + 1)).append ['}'])
    have inside : value inner (4 * inner + 19) (nested (inner + 1) ++ ['}']) = .error (.tooDeep .list) :=
      value_nested ['}'] (Nat.le_succ inner) (by omega)
    have whole := value_of_member_refused "x" (by decide) (by simp) tight inside
    have read : readChars (inner + 1) (nestedText (inner + 1)).toList = .error (.tooDeep .list) := by
      rw [readChars, length, nestedText, String.toList_ofList, skipSpace_cons (by decide), whole]
      intro rest mark
      rw [nestedText, String.toList_ofList] at mark
      exact absurd (List.cons.inj mark).1 (by decide)
    refine ⟨.list, ?_⟩
    rw [readIn, read]
    rfl

end ServiceLease.Json
