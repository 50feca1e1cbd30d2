import ServiceLease.Json.Printer
import ServiceLease.Json.Reader
import ServiceLease.Proofs.Number.Decimal
import ServiceLease.Proofs.Value

/-! Reading what was written as JSON. Values without fractional numbers, whose texts and
names need no escape, come back as they were; a value may be followed by anything that
could not go on a number. -/
namespace ServiceLease.Json

def plainChar (c : Char) : Bool := 0x20 ≤ c.toNat && c.toNat < 0x7F && c != '"' && c != '\\'

def plainText (s : String) : Bool := s.toList.all plainChar

mutual

/-- Whether a value is read back on a stack with so many levels left: every integer has a
text, every text stands for itself, and no object has a name twice. -/
def plain (levels : Nat) : Value → Bool
  | .null => true
  | .bool _ => true
  | .int n => Decimal.fits n
  | .float _ => false
  | .text s => plainText s
  | .broken _ => false
  | .list items => levels != 0 && itemsPlain (levels - 1) items
  | .object ms => levels != 0 && membersPlain (levels - 1) ms && decide (ms.map Prod.fst).Nodup

def itemsPlain (levels : Nat) : List Value → Bool
  | [] => true
  | v :: rest => plain levels v && itemsPlain levels rest

def membersPlain (levels : Nat) : List (String × Value) → Bool
  | [] => true
  | (name, v) :: rest => plainText name && plain levels v && membersPlain levels rest

end

/-- What may follow a number without being taken for a part of it. -/
def Stops (k : List Char) : Prop := ∀ c ∈ k.head?, c.isDigit = false ∧ c ≠ '.' ∧ c ≠ 'e' ∧ c ≠ 'E'

theorem stops_nil : Stops [] := by simp [Stops]

theorem stops_comma (k : List Char) : Stops (',' :: k) := by simp [Stops]

theorem stops_bracket (k : List Char) : Stops (']' :: k) := by simp [Stops]

theorem stops_brace (k : List Char) : Stops ('}' :: k) := by simp [Stops]

/-! Numbers. -/

theorem takeWhile_digits {s k : List Char} (digits : ∀ c ∈ s, c.isDigit = true)
    (apart : ∀ c ∈ k.head?, c.isDigit = false) :
    (s ++ k).takeWhile (·.isDigit) = s ∧ (s ++ k).dropWhile (·.isDigit) = k := by
  rw [List.takeWhile_append_of_pos digits, List.dropWhile_append_of_pos digits]
  cases k with
  | nil => simp
  | cons c k => simp [apart c rfl]

theorem whole?_cons {c : Char} {s k : List Char} (digits : ∀ d ∈ c :: s, d.isDigit = true) (leading : c ≠ '0')
    (apart : ∀ d ∈ k.head?, d.isDigit = false) : whole? (c :: s ++ k) = some (c :: s, k) := by
  obtain ⟨taken, left⟩ := takeWhile_digits (fun d member => digits d (List.mem_cons_of_mem c member)) apart
  rw [List.cons_append, whole?]
  · rw [if_pos (digits c List.mem_cons_self), taken, left]
  · simp [leading]

theorem whole?_digits (n : Nat) {k : List Char} (stops : Stops k) :
    whole? (Nat.toDigits 10 n ++ k) = some (Nat.toDigits 10 n, k) := by
  have digits : ∀ c ∈ Nat.toDigits 10 n, c.isDigit = true := fun _ => Decimal.isDigit_of_mem
  by_cases zero : n = 0
  · subst zero
    simp [whole?]
  · have leading := Decimal.head_toDigits (Nat.pos_of_ne_zero zero)
    cases h : Nat.toDigits 10 n with
    | nil => exact absurd h Nat.toDigits_ne_nil
    | cons c rest =>
      rw [h] at digits leading
      have first : c ≠ '0' := by rintro rfl; exact leading rfl
      exact whole?_cons digits first fun d next => (stops d next).1

theorem fraction_stops {k : List Char} (apart : ∀ c ∈ k.head?, c ≠ '.') : fraction k = ([], k) := by
  unfold fraction
  split
  · exact absurd rfl (apart '.' rfl)
  · rfl

theorem exponent?_stops {k : List Char} (stops : Stops k) : exponent? k = none := by
  cases k with
  | nil => rfl
  | cons c k => simp [exponent?, (stops c rfl).2.2]

theorem unsigned_digits (negative : Bool) {n : Nat} {k : List Char}
    (short : (Nat.toDigits 10 n).length ≤ Decimal.digitLimit) (stops : Stops k) :
    unsigned negative (Nat.toDigits 10 n ++ k) =
      some (.ok (.int (if negative then -(n : Int) else n)), k) := by
  have point := fraction_stops fun c next => (stops c next).2.1
  simp [unsigned, whole?_digits n stops, point, exponent?_stops stops, short, digitsOf]

/-- What begins with a digit begins with none of the other signs. -/
theorem digit_apart {c : Char} (digit : c.isDigit = true) :
    (c ≠ 'n' ∧ c ≠ 't' ∧ c ≠ 'f' ∧ c ≠ 'N' ∧ c ≠ 'I' ∧ c ≠ '-') ∧ c ≠ '"' ∧ c ≠ '[' ∧ c ≠ '{' := by
  refine ⟨⟨?_, ?_, ?_, ?_, ?_, ?_⟩, ?_, ?_, ?_⟩ <;> (rintro rfl; revert digit; decide)

theorem digit_opens {c : Char} (digit : c.isDigit = true) : isSpace c = false ∧ c ≠ ']' ∧ c ≠ '\uFEFF' := by
  have bounds := Char.isDigit_iff_toNat.1 digit
  have apart (d : Char) (small : d.toNat < 0x30) : c ≠ d := by rintro rfl; simp at bounds; omega
  refine ⟨by simp [isSpace, apart], ?_, ?_⟩ <;> (rintro rfl; revert digit; decide)

theorem atom_of_digit (levels : Nat) {c : Char} (digit : c.isDigit = true) (rest : List Char) :
    atom levels (c :: rest) = atom.number (c :: rest) false (c :: rest) := by
  obtain ⟨apart, -⟩ := digit_apart digit
  rw [atom]
  all_goals simp [apart]

theorem atom_of_minus (levels : Nat) {c : Char} (digit : c.isDigit = true) (rest : List Char) :
    atom levels ('-' :: c :: rest) = atom.number ('-' :: c :: rest) true (c :: rest) := by
  obtain ⟨apart, -⟩ := digit_apart digit
  rw [atom]
  all_goals simp [apart]

theorem atom_digits (levels : Nat) {n : Int} {k : List Char} (fits : Decimal.fits n = true) (stops : Stops k) :
    atom levels (Decimal.digits n ++ k) = .ok (.int n, k) := by
  have short := (Decimal.fits_iff_length n).1 fits
  by_cases negative : n < 0
  · rw [Decimal.digits_of_neg negative]
    cases h : Nat.toDigits 10 n.natAbs with
    | nil => exact absurd h Nat.toDigits_ne_nil
    | cons c rest =>
      have first : c.isDigit = true := Decimal.isDigit_of_mem (n := n.natAbs) (by simp [h])
      have read := unsigned_digits true short stops
      rw [h, List.cons_append] at read
      have value : -(n.natAbs : Int) = n := by omega
      rw [List.cons_append, List.cons_append, atom_of_minus levels first, atom.number, read]
      simp only [if_true, value]
  · have nonneg := Int.not_lt.1 negative
    rw [Decimal.digits_of_nonneg nonneg]
    cases h : Nat.toDigits 10 n.natAbs with
    | nil => exact absurd h Nat.toDigits_ne_nil
    | cons c rest =>
      have first : c.isDigit = true := Decimal.isDigit_of_mem (n := n.natAbs) (by simp [h])
      have read := unsigned_digits false short stops
      rw [h, List.cons_append] at read
      have value : (n.natAbs : Int) = n := by omega
      rw [List.cons_append, atom_of_digit levels first, atom.number, read]
      simp only [Bool.false_eq_true, if_false, value]

/-! Texts. -/

theorem writeChar_of_plain {c : Char} (plain : plainChar c = true) : writeChar c = [c] := by
  simp only [plainChar, Bool.and_eq_true, decide_eq_true_eq, bne_iff_ne] at plain
  obtain ⟨⟨⟨low, high⟩, quote⟩, slash⟩ := plain
  have control (d : Char) (small : d.toNat < 0x20) : c ≠ d := by rintro rfl; omega
  simp [writeChar, quote, slash, low, high, control]

theorem flatMap_writeChar {cs : List Char} (plain : cs.all plainChar = true) : cs.flatMap writeChar = cs := by
  induction cs with
  | nil => rfl
  | cons c cs ih =>
    simp only [List.all_cons, Bool.and_eq_true] at plain
    rw [List.flatMap_cons, writeChar_of_plain plain.1, ih plain.2]
    rfl

theorem writeString_of_plain {s : String} (plain : plainText s = true) :
    writeString s = '"' :: s.toList ++ ['"'] := by
  rw [writeString, flatMap_writeChar plain]

theorem not_isSurrogate (c : Char) : Text.isSurrogate c.toNat = false := by
  have valid := c.valid
  simp only [UInt32.isValidChar, Nat.isValidChar] at valid
  simp only [Text.isSurrogate, Char.toNat, Bool.and_eq_false_iff, decide_eq_false_iff_not]
  omega

/-- The code points of characters give these characters back. -/
theorem replaced_toNat (s : String) : Text.replaced (s.toList.map Char.toNat) = s := by
  simp [Text.replaced, not_isSurrogate, Function.comp_def]

theorem ofCodes_toNat (s : String) : Value.ofCodes (s.toList.map Char.toNat) = .text s := by
  have none : ¬ (s.toList.map Char.toNat).any Text.isSurrogate = true := by simp [not_isSurrogate]
  rw [Value.ofCodes, dif_neg none, replaced_toNat]

theorem stringFrom_plain (start k : List Char) {cs : List Char} {n : Nat} (plain : cs.all plainChar = true)
    (enough : cs.length < n) : stringFrom start n (cs ++ '"' :: k) = .ok (cs.map Char.toNat, k) := by
  induction cs generalizing n with
  | nil =>
    obtain ⟨n, rfl⟩ := Nat.exists_eq_succ_of_ne_zero (Nat.ne_of_gt enough)
    rfl
  | cons c cs ih =>
    obtain ⟨n, rfl⟩ := Nat.exists_eq_succ_of_ne_zero (Nat.ne_of_gt (Nat.lt_of_le_of_lt (Nat.zero_le _) enough))
    simp only [List.all_cons, Bool.and_eq_true] at plain
    have tail := ih (n := n) plain.2 (by simpa using enough)
    have here := plain.1
    simp only [plainChar, Bool.and_eq_true, decide_eq_true_eq, bne_iff_ne] at here
    rw [List.cons_append, stringFrom]
    · rw [if_neg (by omega), tail]
      rfl
    all_goals simp [here]

theorem string_plain (levels : Nat) (k : List Char) {s : String} {n : Nat} (plain : plainText s = true)
    (enough : s.toList.length < n) : string levels n (s.toList ++ '"' :: k) = .ok (s.toList.map Char.toNat, k) := by
  simp [string, stringFrom_plain _ k plain enough]

/-! Values. -/

theorem skipSpace_cons {c : Char} (solid : isSpace c = false) (rest : List Char) :
    skipSpace (c :: rest) = c :: rest := by
  simp [skipSpace, solid]

/-- A value begins with a sign that nothing before a value is taken for. -/
theorem write_head {levels : Nat} {v : Value} (known : plain levels v = true) :
    ∃ c rest, write v = c :: rest ∧ isSpace c = false ∧ c ≠ ']' ∧ c ≠ '\uFEFF' := by
  cases v with
  | float x => simp [plain] at known
  | broken t => simp [plain] at known
  | null => exact ⟨'n', "ull".toList, rfl, by decide, by decide, by decide⟩
  | bool b =>
    cases b
    · exact ⟨'f', "alse".toList, rfl, by decide, by decide, by decide⟩
    · exact ⟨'t', "rue".toList, rfl, by decide, by decide, by decide⟩
  | int n =>
    cases h : Decimal.digits n with
    | nil => exact absurd h (Decimal.digits_ne_nil n)
    | cons c rest =>
      refine ⟨c, rest, by rw [write, h], ?_⟩
      rcases Decimal.mem_digits (n := n) (c := c) (by simp [h]) with rfl | digit
      · decide
      · exact digit_opens digit
  | text s => exact ⟨'"', _, by rw [write, writeString, List.cons_append], by decide, by decide, by decide⟩
  | list items => exact ⟨'[', _, by rw [write, List.cons_append], by decide, by decide, by decide⟩
  | object ms => exact ⟨'{', _, by rw [write, List.cons_append], by decide, by decide, by decide⟩

theorem skipSpace_write {levels : Nat} {v : Value} (known : plain levels v = true) (k : List Char) :
    skipSpace (write v ++ k) = write v ++ k := by
  obtain ⟨c, rest, head, solid, -⟩ := write_head known
  rw [head, List.cons_append, skipSpace_cons solid]

theorem value_of_atom {levels fuel : Nat} {c : Char} {s : List Char} (apart : c ≠ '"' ∧ c ≠ '[' ∧ c ≠ '{') :
    value levels (fuel + 1) (c :: s) = atom levels (c :: s) := by
  rw [value]
  all_goals simp [apart]

theorem value_of_digits {levels fuel : Nat} {n : Int} {k : List Char} (fits : Decimal.fits n = true) (stops : Stops k) :
    value levels (fuel + 1) (Decimal.digits n ++ k) = .ok (.int n, k) := by
  have read := atom_digits levels fits stops
  cases h : Decimal.digits n with
  | nil => exact absurd h (Decimal.digits_ne_nil n)
  | cons c rest =>
    rw [h] at read
    have apart : c ≠ '"' ∧ c ≠ '[' ∧ c ≠ '{' := by
      rcases Decimal.mem_digits (n := n) (c := c) (by simp [h]) with rfl | digit
      · decide
      · exact (digit_apart digit).2
    rw [List.cons_append, value_of_atom apart]
    exact read

/-! One step of each reader, given what it reads inside. -/

section

variable {levels fuel : Nat}

theorem value_list {s k : List Char} {c : Char} {vs : List Value} (front : s.head? = some c)
    (solid : isSpace c = false) (opened : c ≠ ']') (inside : items levels fuel s = .ok (vs, k)) :
    value (levels + 1) (fuel + 1) ('[' :: s) = .ok (.list vs, k) := by
  obtain ⟨rest, rfl⟩ := List.head?_eq_some_iff.1 front
  simp [value, skipSpace_cons solid, opened, inside]

theorem value_object {s k : List Char} {ms : Members} (front : s.head? = some '"')
    (inside : members levels fuel [] s = .ok (ms, k)) :
    value (levels + 1) (fuel + 1) ('{' :: s) = .ok (.object ms, k) := by
  obtain ⟨rest, rfl⟩ := List.head?_eq_some_iff.1 front
  have solid : isSpace '"' = false := by decide
  simp [value, skipSpace_cons solid, inside]

theorem items_last {s k : List Char} {v : Value} (first : value levels fuel s = .ok (v, ']' :: k)) :
    items levels (fuel + 1) s = .ok ([v], k) := by
  have solid : isSpace ']' = false := by decide
  simp [items, first, skipSpace_cons solid]

theorem items_more {s t k : List Char} {v : Value} {vs : List Value}
    (first : value levels fuel s = .ok (v, ',' :: ' ' :: t)) (tight : skipSpace t = t)
    (others : items levels fuel t = .ok (vs, k)) : items levels (fuel + 1) s = .ok (v :: vs, k) := by
  have solid : isSpace ',' = false := by decide
  have gap : skipSpace (' ' :: t) = t := tight
  simp [items, first, skipSpace_cons solid, gap, others]

theorem members_last {name : String} {s k : List Char} {v : Value} {known : Members}
    (simple : plainText name = true) (enough : name.toList.length < fuel) (tight : skipSpace s = s)
    (inside : value levels fuel s = .ok (v, '}' :: k)) :
    members levels (fuel + 1) known ('"' :: (name.toList ++ '"' :: ':' :: ' ' :: s)) = .ok (known.put name v, k) := by
  have colon : isSpace ':' = false := by decide
  have brace : isSpace '}' = false := by decide
  have gap : skipSpace (' ' :: s) = s := tight
  simp [members, string_plain levels _ simple enough, replaced_toNat, skipSpace_cons colon, gap, inside,
    skipSpace_cons brace]

theorem members_more {name : String} {s t k : List Char} {v : Value} {known ms : Members}
    (simple : plainText name = true) (enough : name.toList.length < fuel) (tight : skipSpace s = s)
    (inside : value levels fuel s = .ok (v, ',' :: ' ' :: t)) (next : skipSpace t = t)
    (others : members levels fuel (known.put name v) t = .ok (ms, k)) :
    members levels (fuel + 1) known ('"' :: (name.toList ++ '"' :: ':' :: ' ' :: s)) = .ok (ms, k) := by
  have colon : isSpace ':' = false := by decide
  have comma : isSpace ',' = false := by decide
  have gap : skipSpace (' ' :: s) = s := tight
  have gap' : skipSpace (' ' :: t) = t := next
  simp [members, string_plain levels _ simple enough, replaced_toNat, skipSpace_cons colon, gap, inside,
    skipSpace_cons comma, gap', others]

end

theorem writeItems_head {levels : Nat} {v : Value} (rest : List Value) (known : plain levels v = true) :
    ∃ c, (∀ k, (writeItems (v :: rest) ++ k).head? = some c) ∧ isSpace c = false ∧ c ≠ ']' := by
  obtain ⟨c, tail, head, solid, opened, -⟩ := write_head known
  refine ⟨c, fun k => ?_, solid, opened⟩
  cases rest <;> simp [writeItems, head]

theorem writeMembers_head {name : String} {v : Value} (rest : Members) (k : List Char) :
    (writeMembers ((name, v) :: rest) ++ k).head? = some '"' := by
  cases rest <;> simp [writeMembers, writeString]

theorem skipSpace_of_head {s : List Char} {c : Char} (front : s.head? = some c) (solid : isSpace c = false) :
    skipSpace s = s := by
  obtain ⟨rest, rfl⟩ := List.head?_eq_some_iff.1 front
  exact skipSpace_cons solid rest

mutual

/-- A written value is read back, and what follows it is left. -/
theorem value_write : ∀ (levels : Nat) (v : Value) (fuel : Nat) (k : List Char), plain levels v = true →
    (write v).length ≤ fuel → Stops k → value levels fuel (write v ++ k) = .ok (v, k)
  | levels, v, 0, k, known, enough, stops => by
    obtain ⟨c, rest, head, -⟩ := write_head known
    simp [head] at enough
  | levels, .null, fuel + 1, k, _, _, _ => rfl
  | levels, .bool true, fuel + 1, k, _, _, _ => rfl
  | levels, .bool false, fuel + 1, k, _, _, _ => rfl
  | levels, .int n, fuel + 1, k, known, _, stops => by
    rw [write]
    exact value_of_digits (by simpa [plain] using known) stops
  | levels, .float x, fuel + 1, k, known, _, _ => by simp [plain] at known
  | levels, .broken t, fuel + 1, k, known, _, _ => by simp [plain] at known
  | levels, .text s, fuel + 1, k, known, enough, _ => by
    have simple : plainText s = true := by simpa [plain] using known
    rw [write, writeString_of_plain simple] at enough ⊢
    simp only [List.cons_append, List.append_assoc, List.nil_append, value]
    rw [string_plain levels k simple (by simp at enough ⊢; omega)]
    simp only [ofCodes_toNat]
  | 0, .list vs, fuel + 1, k, known, _, _ => by simp [plain] at known
  | 0, .object ms, fuel + 1, k, known, _, _ => by simp [plain] at known
  | levels + 1, .list [], fuel + 1, k, _, _, _ => rfl
  | levels + 1, .list (v :: rest), fuel + 1, k, known, enough, _ => by
    have each : itemsPlain levels (v :: rest) = true := by simpa [plain] using known
    have inside := items_write levels (v :: rest) fuel k (by simp) each (by simp [write] at enough; omega)
    obtain ⟨c, front, solid, opened⟩ := writeItems_head rest (v := v) (by simp [itemsPlain] at each; exact each.1)
    simp only [write, List.cons_append, List.append_assoc, List.nil_append]
    exact value_list (front _) solid opened inside
  | levels + 1, .object [], fuel + 1, k, _, _, _ => rfl
  | levels + 1, .object ((name, v) :: rest), fuel + 1, k, known, enough, _ => by
    obtain ⟨each, once⟩ :
        membersPlain levels ((name, v) :: rest) = true ∧ (((name, v) :: rest).map Prod.fst).Nodup := by
      simpa [plain] using known
    have inside := members_write levels ((name, v) :: rest) fuel [] k (by simp) each (by simpa using once)
      (by simp [write] at enough; omega)
    simp only [write, List.cons_append, List.append_assoc, List.nil_append]
    exact value_object (writeMembers_head rest _) inside

theorem items_write : ∀ (levels : Nat) (vs : List Value) (fuel : Nat) (k : List Char), vs ≠ [] →
    itemsPlain levels vs = true → (writeItems vs).length < fuel →
    items levels fuel (writeItems vs ++ ']' :: k) = .ok (vs, k)
  | _, [], _, _, some?, _, _ => absurd rfl some?
  | _, _ :: _, 0, _, _, _, enough => absurd enough (Nat.not_lt_zero _)
  | levels, [v], fuel + 1, k, _, known, enough => by
    simp only [itemsPlain, Bool.and_true] at known
    simp only [writeItems] at enough ⊢
    exact items_last (value_write levels v fuel (']' :: k) known (by omega) (stops_bracket k))
  | levels, v :: w :: rest, fuel + 1, k, _, known, enough => by
    simp only [itemsPlain, Bool.and_eq_true] at known
    simp only [writeItems, List.length_append, List.length_cons] at enough
    obtain ⟨c, front, solid, -⟩ := writeItems_head rest (v := w) known.2.1
    have first := value_write levels v fuel (',' :: ' ' :: (writeItems (w :: rest) ++ ']' :: k)) known.1 (by omega)
      (stops_comma _)
    have others := items_write levels (w :: rest) fuel k (by simp) (by simp [itemsPlain, known]) (by omega)
    simp only [writeItems, List.append_assoc, List.cons_append]
    exact items_more first (skipSpace_of_head (front _) solid) others

theorem members_write : ∀ (levels : Nat) (ms : Members) (fuel : Nat) (held : Members) (k : List Char), ms ≠ [] →
    membersPlain levels ms = true → ((held ++ ms).map Prod.fst).Nodup → (writeMembers ms).length < fuel →
    members levels fuel held (writeMembers ms ++ '}' :: k) = .ok (held ++ ms, k)
  | _, [], _, _, _, some?, _, _, _ => absurd rfl some?
  | _, _ :: _, 0, _, _, _, _, _, enough => absurd enough (Nat.not_lt_zero _)
  | levels, [(name, v)], fuel + 1, held, k, _, known, once, enough => by
    simp only [membersPlain, Bool.and_true, Bool.and_eq_true] at known
    simp only [writeMembers, writeString_of_plain known.1, List.length_append, List.length_cons] at enough
    have new : name ∉ held.map Prod.fst := by simp [List.nodup_append] at once ⊢; grind
    have inside := value_write levels v fuel ('}' :: k) known.2 (by omega) (stops_brace k)
    rw [← Members.put_of_new new]
    simp only [writeMembers, writeString_of_plain known.1, List.append_assoc, List.cons_append, List.nil_append]
    exact members_last known.1 (by omega) (skipSpace_write known.2 _) inside
  | levels, (name, v) :: (next, w) :: rest, fuel + 1, held, k, _, known, once, enough => by
    simp only [membersPlain, Bool.and_eq_true] at known
    obtain ⟨⟨simple, first⟩, others⟩ := known
    simp only [writeMembers, writeString_of_plain simple, List.length_append, List.length_cons] at enough
    have new : name ∉ held.map Prod.fst := by simp [List.nodup_append] at once ⊢; grind
    have inside := value_write levels v fuel (',' :: ' ' :: (writeMembers ((next, w) :: rest) ++ '}' :: k)) first
      (by omega) (stops_comma _)
    have tail := members_write levels ((next, w) :: rest) fuel (held ++ [(name, v)]) k (by simp)
      (by simp [membersPlain, others]) (by simpa using once) (by omega)
    rw [← Members.put_of_new new] at tail
    have moved : held ++ (name, v) :: (next, w) :: rest = held.put name v ++ (next, w) :: rest := by
      simp [Members.put_of_new new]
    rw [moved]
    simp only [writeMembers, writeString_of_plain simple, List.append_assoc, List.cons_append, List.nil_append]
    exact members_more simple (by omega) (skipSpace_write first _) inside
      (skipSpace_of_head (writeMembers_head rest _) (by decide)) tail

end

mutual

theorem writable_of_plain : ∀ (levels : Nat) (v : Value), plain levels v = true → writable v = true
  | _, .null, _ => rfl
  | _, .bool _, _ => rfl
  | _, .int n, known => by simpa [plain, writable] using known
  | _, .float _, known => by simp [plain] at known
  | _, .text _, _ => rfl
  | _, .broken _, _ => rfl
  | levels, .list items, known => itemsWritable_of_plain (levels - 1) items (by simp [plain] at known; exact known.2)
  | levels, .object ms, known =>
    membersWritable_of_plain (levels - 1) ms (by simp [plain] at known; exact known.1.2)

theorem itemsWritable_of_plain : ∀ (levels : Nat) (vs : List Value), itemsPlain levels vs = true →
    itemsWritable vs = true
  | _, [], _ => rfl
  | levels, v :: rest, known => by
    simp only [itemsPlain, Bool.and_eq_true] at known
    simp [itemsWritable, writable_of_plain levels v known.1, itemsWritable_of_plain levels rest known.2]

theorem membersWritable_of_plain : ∀ (levels : Nat) (ms : List (String × Value)), membersPlain levels ms = true →
    membersWritable ms = true
  | _, [], _ => rfl
  | levels, (name, v) :: rest, known => by
    simp only [membersPlain, Bool.and_eq_true] at known
    simp [membersWritable, writable_of_plain levels v known.1.2, membersWritable_of_plain levels rest known.2]

end

section

variable {levels : Nat} {v : Value}

theorem render?_of_plain (known : plain levels v = true) : render? v = some (String.ofList (write v)) := by
  rw [render?, if_pos (writable_of_plain levels v known)]

/-- The text of a value is read back as that value. -/
theorem readIn_write (known : plain levels v = true) : readIn levels (String.ofList (write v)) = .ok v := by
  obtain ⟨c, rest, head, -, -, noMark⟩ := write_head known
  have inside := value_write levels v (2 * (write v).length + 1) [] known (by omega) stops_nil
  rw [List.append_nil] at inside
  have tight : skipSpace (write v) = write v := by simpa using skipSpace_write known []
  have whole : readChars levels (write v) = .ok v := by
    unfold readChars
    split
    · next mark =>
      rw [head] at mark
      injection mark with same
      exact absurd same noMark
    · rw [tight, inside]; rfl
  rw [readIn, String.toList_ofList, whole]
  rfl

theorem read_write (known : plain outermost v = true) : read (String.ofList (write v)) = .ok v := readIn_write known

end

end ServiceLease.Json
