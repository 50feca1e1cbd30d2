import ServiceLease.Proofs.Json.Grammar
import ServiceLease.Proofs.Json.RoundTrip

/-! Reading a text of the grammar. It comes to the end of the text and gives a value, unless it comes to an integer
beyond the limit before, or runs out of levels where the text may take more of them. -/
namespace ServiceLease.Json

/-- Reading is given up before the end of what is in the grammar. -/
inductive GivesUp {α : Type} (few : Prop) : Except Refusal α → Prop where
  | tooLong (digits : Nat) : GivesUp few (.error (.tooLong digits))
  | tooDeep (need : Descent) : few → GivesUp few (.error (.tooDeep need))

def Passes {α : Type} (few : Prop) (k : List Char) (r : Step α) : Prop :=
  (∃ a, r = .ok (a, k)) ∨ GivesUp few r

section

variable {few : Prop} {levels room : Nat} {k : List Char}

theorem GivesUp.refusal {α : Type} {r : Except Refusal α} (up : GivesUp few r) :
    ∃ e, r = .error e ∧ ∀ β : Type, GivesUp few (.error e : Except Refusal β) := by
  cases up with
  | tooLong digits => exact ⟨_, rfl, fun _ => .tooLong digits⟩
  | tooDeep need less => exact ⟨_, rfl, fun _ => .tooDeep need less⟩

theorem skipSpace_append {w : List Char} (blank : Blank w) (solid : ∀ c ∈ k.head?, isSpace c = false) :
    skipSpace (w ++ k) = k := by
  rw [skipSpace, List.dropWhile_append_of_pos blank]
  cases k with
  | nil => rfl
  | cons c k => exact skipSpace_cons (solid c rfl) k

theorem skipSpace_append_cons {w : List Char} (blank : Blank w) {c : Char} (solid : isSpace c = false) :
    skipSpace (w ++ c :: k) = c :: k := by
  refine skipSpace_append blank fun d first => ?_
  cases first
  exact solid

theorem stops_blank {w : List Char} (blank : Blank w) (stops : Stops k) : Stops (w ++ k) := by
  cases w with
  | nil => exact stops
  | cons c w =>
    intro d first
    cases first
    have space := blank c List.mem_cons_self
    refine ⟨?_, ?_, ?_, ?_⟩
    · refine Bool.eq_false_iff.2 fun digit => ?_
      exact absurd space (Bool.eq_false_iff.1 (digit_opens digit).1)
    all_goals
      rintro rfl
      revert space
      decide

/-! Numbers. -/

theorem Digits.head {s : List Char} (digits : Digits s) : ∃ c t, s = c :: t ∧ c.isDigit = true := by
  obtain ⟨some, digits⟩ := digits
  cases s with
  | nil => exact absurd rfl some
  | cons c t => exact ⟨c, t, rfl, digits c List.mem_cons_self⟩

theorem whole?_append {w : List Char} (text : WholeText w) (apart : ∀ c ∈ k.head?, c.isDigit = false) :
    whole? (w ++ k) = some (w, k) := by
  cases text with
  | zero => rfl
  | digits digits leading =>
    obtain ⟨c, s, rfl, -⟩ := digits.head
    have first : c ≠ '0' := by rintro rfl; exact leading rfl
    exact whole?_cons digits.2 first apart

theorem fraction_append {f : List Char} (text : FractionText f)
    (apart : ∀ c ∈ k.head?, c.isDigit = false ∧ c ≠ '.') : (fraction (f ++ k)).2 = k := by
  cases text with
  | none => rw [List.nil_append, fraction_stops fun c first => (apart c first).2]
  | digits digits =>
    obtain ⟨c, s, rfl, digit⟩ := digits.head
    have left := (takeWhile_digits (fun d member => digits.2 d (List.mem_cons_of_mem c member))
      fun d first => (apart d first).1).2
    simp [fraction, digit, left]

theorem exponent?_append {e : List Char} (text : ExponentText e) (stops : Stops k) :
    (e = [] ∧ exponent? (e ++ k) = none) ∨ ∃ x, exponent? (e ++ k) = some (x, k) := by
  cases text with
  | none => exact .inl ⟨rfl, exponent?_stops stops⟩
  | @digits mark sign s letter signed digits =>
    refine .inr ?_
    obtain ⟨taken, left⟩ := takeWhile_digits digits.2 fun d first => (stops d first).1
    obtain ⟨c, s, rfl, digit⟩ := digits.head
    rw [List.cons_append] at taken left
    have marked : (mark == 'e' || mark == 'E') = true := by simpa using letter
    have plain : c ≠ '-' ∧ c ≠ '+' := by
      constructor <;> (rintro rfl; revert digit; decide)
    simp only [List.mem_cons, List.not_mem_nil, or_false] at signed
    rcases signed with rfl | rfl | rfl
    · rw [List.nil_append, List.cons_append, exponent?]
      · simp [marked, taken, left]
      all_goals simp [plain]
    · simp [exponent?, marked, taken, left]
    · simp [exponent?, marked, taken, left]

theorem WholeText.head {w : List Char} (text : WholeText w) : ∃ c t, w = c :: t ∧ c.isDigit = true := by
  cases text with
  | zero => exact ⟨'0', [], rfl, rfl⟩
  | digits digits _ => exact digits.head

theorem UnsignedText.head {t : List Char} (text : UnsignedText t) : ∃ c s, t = c :: s ∧ c.isDigit = true := by
  cases text with
  | parts whole _ _ =>
    obtain ⟨c, s, rfl, digit⟩ := whole.head
    exact ⟨c, _, rfl, digit⟩

/-- What follows a fraction could not go on it. -/
theorem ExponentText.apart {e : List Char} (text : ExponentText e) (stops : Stops k) :
    ∀ c ∈ (e ++ k).head?, c.isDigit = false ∧ c ≠ '.' := by
  cases text with
  | none => exact fun c first => ⟨(stops c first).1, (stops c first).2.1⟩
  | digits letter _ _ =>
    intro c first
    cases first
    revert letter
    simp only [List.mem_cons, List.not_mem_nil, or_false]
    rintro (rfl | rfl) <;> decide

theorem FractionText.apart {f : List Char} (text : FractionText f) (apart : ∀ c ∈ k.head?, c.isDigit = false) :
    ∀ c ∈ (f ++ k).head?, c.isDigit = false := by
  cases text with
  | none => exact apart
  | digits _ =>
    intro c first
    cases first
    rfl

theorem unsigned_append {t : List Char} (negative : Bool) (text : UnsignedText t) (stops : Stops k) :
    ∃ r, unsigned negative (t ++ k) = some (r, k) ∧ ((∃ v, r = .ok v) ∨ ∃ digits, r = .error (.tooLong digits)) := by
  cases text with
  | @parts w f e whole fractional exponential =>
    have afterPoint := exponential.apart stops
    have afterWhole := fractional.apart fun c first => (afterPoint c first).1
    have digits := whole?_append whole afterWhole
    have point := fraction_append fractional afterPoint
    rw [List.append_assoc, List.append_assoc]
    rcases exponent?_append exponential stops with ⟨rfl, none⟩ | ⟨x, some⟩
    · simp only [unsigned, digits, Option.map_some, point, none]
      split
      · next noPoint =>
        rw [← fraction_none (List.isEmpty_iff.1 noPoint), point, List.nil_append]
        split <;> simp
      · simp
    · simp [unsigned, digits, point, some]

theorem number_passes {t : List Char} (whole : List Char) (negative : Bool) (text : UnsignedText t)
    (stops : Stops k) : Passes few k (atom.number whole negative (t ++ k)) := by
  unfold atom.number
  obtain ⟨r, read, ⟨v, rfl⟩ | ⟨digits, rfl⟩⟩ := unsigned_append negative text stops
  · rw [read]
    exact .inl ⟨v, rfl⟩
  · rw [read]
    exact .inr (.tooLong digits)

theorem eq_of_mem_literals {name : String} (known : name ∈ literals) :
    name = "null" ∨ name = "true" ∨ name = "false" := by
  simpa [literals] using known

theorem eq_of_mem_constants {name : String} (known : name ∈ constants) :
    name = "NaN" ∨ name = "Infinity" ∨ name = "-Infinity" := by
  simpa [constants] using known

theorem constant_passes (x : Binary64) : Passes (levels < room + 1) k (constant levels x k) := by
  cases levels with
  | zero => exact .inr (.tooDeep .call (Nat.succ_pos room))
  | succ levels => exact .inl ⟨.float x, rfl⟩

theorem atom_passes {t : List Char} (text : AtomText room t) (stops : Stops k) :
    Passes (levels < room) k (atom levels (t ++ k)) := by
  cases text with
  | literal known =>
    rcases eq_of_mem_literals known with rfl | rfl | rfl
    all_goals exact .inl ⟨_, rfl⟩
  | constant known =>
    rcases eq_of_mem_constants known with rfl | rfl | rfl
    all_goals exact constant_passes _
  | number number =>
    obtain ⟨c, s, rfl, digit⟩ := number.head
    rw [List.cons_append, atom_of_digit levels digit]
    exact number_passes _ false number stops
  | negative number =>
    obtain ⟨c, s, rfl, digit⟩ := number.head
    rw [List.cons_append, List.cons_append, atom_of_minus levels digit]
    exact number_passes _ true number stops

theorem AtomText.head {t : List Char} (text : AtomText room t) :
    ∃ c s, t = c :: s ∧ (isSpace c = false ∧ c ≠ ']' ∧ c ≠ '\uFEFF') ∧ c ≠ '"' ∧ c ≠ '[' ∧ c ≠ '{' := by
  cases text with
  | literal known =>
    rcases eq_of_mem_literals known with rfl | rfl | rfl
    all_goals exact ⟨_, _, rfl, by decide⟩
  | constant known =>
    rcases eq_of_mem_constants known with rfl | rfl | rfl
    all_goals exact ⟨_, _, rfl, by decide⟩
  | number number =>
    obtain ⟨c, s, rfl, digit⟩ := number.head
    exact ⟨c, s, rfl, digit_opens digit, (digit_apart digit).2⟩
  | negative _ => exact ⟨'-', _, rfl, by decide⟩

/-! Strings. -/

theorem StringText.nonempty {t : List Char} (text : StringText t) : t ≠ [] := by
  cases text <;> simp

theorem unit?_append {a b c d : Char} {s : List Char} (hex : ∀ h ∈ [a, b, c, d], (Text.hexDigit? h).isSome)
    (more : s ≠ []) : ∃ n, unit? (a :: b :: c :: d :: s) = some (n, s) := by
  cases s with
  | nil => exact absurd rfl more
  | cons e s =>
    simp only [List.forall_mem_cons, Option.isSome_iff_exists] at hex
    obtain ⟨⟨x, first⟩, ⟨y, second⟩, ⟨z, third⟩, ⟨u, fourth⟩, -⟩ := hex
    refine ⟨((x * 16 + y) * 16 + z) * 16 + u, ?_⟩
    simp [unit?, first, second, third, fourth]

/-- After a backslash and a `u` in a string stands a unit. -/
theorem StringText.unit {t : List Char} {rest : List Char} (text : StringText t)
    (escaped : t ++ k = '\\' :: 'u' :: rest) :
    ∃ n t', unit? rest = some (n, t' ++ k) ∧ StringText t' ∧ t'.length ≤ t.length := by
  cases text with
  | closed => cases escaped
  | char _ _ plain _ => exact absurd (List.cons.inj escaped).1 plain
  | escape one string =>
    cases one with
    | sign known =>
      cases escaped
      exact absurd known (by decide)
    | unit hex =>
      cases escaped
      obtain ⟨n, read⟩ := unit?_append hex (List.append_ne_nil_of_left_ne_nil string.nonempty k)
      exact ⟨n, _, read, string, by simp; omega⟩

/-- An escape is read, with the next one if that stands for the other half of its character. -/
theorem escape_append {e t : List Char} (text : EscapeText e) (string : StringText t) :
    ∃ c t', escape (e ++ (t ++ k)) = .ok (c, t' ++ k) ∧ StringText t' ∧ t'.length ≤ t.length := by
  cases text with
  | sign known =>
    simp only [List.mem_cons, List.not_mem_nil, or_false] at known
    rcases known with rfl | rfl | rfl | rfl | rfl | rfl | rfl | rfl
    all_goals exact ⟨_, t, rfl, string, Nat.le_refl _⟩
  | unit hex =>
    obtain ⟨high, read⟩ := unit?_append hex (List.append_ne_nil_of_left_ne_nil string.nonempty k)
    have alone := (⟨high, t, rfl, string, Nat.le_refl _⟩ :
      ∃ c t', (.ok (high, t ++ k) : Step Nat) = .ok (c, t' ++ k) ∧ StringText t' ∧ t'.length ≤ t.length)
    simp only [List.cons_append, List.nil_append, escape, read]
    split
    · next second _ escaped =>
      obtain ⟨low, t', pair, other, shorter⟩ := string.unit escaped
      rw [pair]
      dsimp only
      split
      · exact alone
      · split
        · exact ⟨_, t', rfl, other, shorter⟩
        · exact alone
    · exact alone

theorem EscapeText.head {e : List Char} (text : EscapeText e) : ∃ c s, e = c :: s := by
  cases text <;> exact ⟨_, _, rfl⟩

/-- The induction is on the fuel and not on the string, since two escapes may be read at once. -/
theorem stringFrom_append (start : List Char) {fuel : Nat} {t : List Char} (text : StringText t)
    (enough : t.length ≤ fuel) : ∃ cs, stringFrom start fuel (t ++ k) = .ok (cs, k) := by
  induction fuel generalizing t with
  | zero => exact absurd (List.eq_nil_of_length_eq_zero (Nat.le_zero.1 enough)) text.nonempty
  | succ fuel ih =>
    cases text with
    | closed => exact ⟨[], rfl⟩
    | @char c s printable quote slash string =>
      obtain ⟨cs, read⟩ := ih string (Nat.le_of_succ_le_succ enough)
      refine ⟨c.toNat :: cs, ?_⟩
      rw [List.cons_append, stringFrom]
      · rw [if_neg (Nat.not_lt.2 printable), read]
      all_goals simp [quote, slash]
    | @escape e s one string =>
      obtain ⟨c, t', read, other, shorter⟩ := escape_append (k := k) one string
      have left : t'.length ≤ fuel := by
        simp only [List.length_cons, List.length_append] at enough
        omega
      obtain ⟨cs, inside⟩ := ih other left
      obtain ⟨d, e, rfl⟩ := one.head
      refine ⟨c :: cs, ?_⟩
      simp only [List.cons_append, List.append_assoc] at read ⊢
      rw [stringFrom]
      · simp only [read, inside]
      · simp

theorem string_append (levels : Nat) {fuel : Nat} {t : List Char} (text : StringText t) (enough : t.length ≤ fuel) :
    ∃ codes, string levels fuel (t ++ k) = .ok (codes, k) := by
  obtain ⟨cs, read⟩ := stringFrom_append (t ++ k) text enough
  exact ⟨cs, by rw [string, read]⟩

/-! Values. -/

/-- What begins neither with a blank nor with another sign. -/
def Opens (other : Char) (t : List Char) : Prop := ∃ c s, t = c :: s ∧ isSpace c = false ∧ c ≠ other

theorem Opens.append {other : Char} {t : List Char} (opens : Opens other t) (k : List Char) : Opens other (t ++ k) := by
  obtain ⟨c, s, rfl, begins⟩ := opens
  exact ⟨c, s ++ k, rfl, begins⟩

theorem Opens.nonempty {other : Char} {t : List Char} (opens : Opens other t) : t ≠ [] := by
  obtain ⟨c, s, rfl, -⟩ := opens
  exact List.cons_ne_nil c s

theorem skipSpace_opens {other : Char} {w t : List Char} (blank : Blank w) (opens : Opens other t) :
    skipSpace (w ++ t) = t := by
  obtain ⟨c, s, rfl, solid, -⟩ := opens
  exact skipSpace_append_cons blank solid

theorem ValueText.opens {t : List Char} (text : ValueText room t) : Opens ']' t ∧ Opens '\uFEFF' t := by
  have begun (c : Char) (s : List Char) (begins : isSpace c = false ∧ c ≠ ']' ∧ c ≠ '\uFEFF') :
      Opens ']' (c :: s) ∧ Opens '\uFEFF' (c :: s) :=
    ⟨⟨c, s, rfl, begins.1, begins.2.1⟩, c, s, rfl, begins.1, begins.2.2⟩
  cases text with
  | atom atom =>
    obtain ⟨c, s, rfl, begins, -⟩ := atom.head
    exact begun c s begins
  | text _ => exact begun '"' _ (by decide)
  | noItems _ => exact begun '[' _ (by decide)
  | list _ _ => exact begun '[' _ (by decide)
  | noMembers _ => exact begun '{' _ (by decide)
  | object _ _ => exact begun '{' _ (by decide)

theorem ItemsText.opens {t : List Char} (text : ItemsText room t) : Opens ']' t := by
  cases text with
  | last one _ => exact one.opens.1.append _
  | next one _ _ _ => exact one.opens.1.append _

theorem MemberText.opens {t : List Char} (text : MemberText room t) : Opens '}' t := by
  cases text with
  | colon => exact ⟨'"', _, rfl, by decide⟩

theorem MembersText.opens {t : List Char} (text : MembersText room t) : Opens '}' t := by
  cases text with
  | last one _ => exact one.opens.append _
  | next one _ _ _ => exact one.opens.append _

theorem Passes.map {α β : Type} {r : Step α} (f : α → β) (passes : Passes few k r) :
    Passes few k (r.map fun (a, rest) => (f a, rest)) := by
  rcases passes with ⟨a, rfl⟩ | up
  · exact .inl ⟨f a, rfl⟩
  · obtain ⟨e, rfl, anywhere⟩ := up.refusal
    exact .inr (anywhere _)

theorem Passes.mono {α : Type} {many : Prop} {r : Step α} (passes : Passes few k r) (more : few → many) :
    Passes many k r := by
  rcases passes with read | ⟨digits⟩ | ⟨need, less⟩
  · exact .inl read
  · exact .inr (.tooLong digits)
  · exact .inr (.tooDeep need (more less))

theorem value_of_items {w t : List Char} {fuel : Nat} (blank : Blank w) (opens : Opens ']' t) :
    value (levels + 1) (fuel + 1) ('[' :: (w ++ t)) = (items levels fuel t).map fun (vs, rest) => (.list vs, rest) := by
  have here := skipSpace_opens blank opens
  obtain ⟨c, s, rfl, -, opened⟩ := opens
  simp only [value, here]
  split
  · next closed => exact absurd (List.cons.inj closed).1 opened
  · cases items levels fuel (c :: s) <;> rfl

theorem value_of_members {w t : List Char} {fuel : Nat} (blank : Blank w) (opens : Opens '}' t) :
    value (levels + 1) (fuel + 1) ('{' :: (w ++ t)) =
      (members levels fuel [] t).map fun (ms, rest) => (.object ms, rest) := by
  have here := skipSpace_opens blank opens
  obtain ⟨c, s, rfl, -, opened⟩ := opens
  simp only [value, here]
  split
  · next closed => exact absurd (List.cons.inj closed).1 opened
  · cases members levels fuel [] (c :: s) <;> rfl

theorem items_of_comma {s w w' t : List Char} {v : Value} {fuel : Nat} (blank : Blank w) (blank' : Blank w')
    (opens : Opens ']' t) (first : value levels fuel s = .ok (v, w ++ ',' :: (w' ++ t))) :
    items levels (fuel + 1) s = (items levels fuel t).map fun (vs, rest) => (v :: vs, rest) := by
  have comma := skipSpace_append_cons blank (c := ',') (k := w' ++ t) (by decide)
  have later := skipSpace_opens blank' opens
  simp only [items, first, comma, later]
  cases items levels fuel t <;> rfl

/-- A member is read up to what follows it, if its value is; what follows decides whether there is another one. -/
theorem members_of_member {t after : List Char} {fuel : Nat} (known : Members) (named : MemberText room t)
    (enough : t.length ≤ fuel)
    (reads : ∀ s, ValueText room s → s.length ≤ fuel → Passes few after (value levels fuel (s ++ after))) :
    GivesUp few (members levels (fuel + 1) known (t ++ after)) ∨
      ∃ known', ∀ rest,
        (skipSpace after = '}' :: rest → members levels (fuel + 1) known (t ++ after) = .ok (known', rest)) ∧
        (skipSpace after = ',' :: rest →
          members levels (fuel + 1) known (t ++ after) = members levels fuel known' (skipSpace rest)) := by
  cases named with
  | @colon _ name w w' s string blank blank' value =>
    have left : name.length ≤ fuel ∧ s.length ≤ fuel := by
      simp only [List.length_cons, List.length_append] at enough
      omega
    obtain ⟨codes, named⟩ := string_append levels (k := w ++ ':' :: (w' ++ (s ++ after))) string left.1
    have colon := skipSpace_append_cons (k := w' ++ (s ++ after)) blank (c := ':') (by decide)
    have given := skipSpace_opens blank' (value.opens.1.append after)
    simp only [List.cons_append, List.append_assoc]
    rcases reads s value left.2 with ⟨v, read⟩ | up
    · refine .inr ⟨known.put (Text.replaced codes) v, fun rest => ⟨fun closed => ?_, fun comma => ?_⟩⟩
      · simp only [members, named, colon, given, read, closed]
      · simp only [members, named, colon, given, read, comma]
    · obtain ⟨e, refused, anywhere⟩ := up.refusal
      simpa only [members, named, colon, given, refused] using .inl (anywhere _)

/-! The fuel that is left for a part of a text. -/

theorem length_inside {n : Nat} {front : Char} {w s : List Char} (enough : (front :: (w ++ s)).length ≤ n + 1) :
    s.length ≤ n := by
  simp only [List.length_cons, List.length_append] at enough
  omega

theorem length_last {n : Nat} {close : Char} {s w : List Char} (enough : (s ++ (w ++ [close])).length ≤ n + 1) :
    s.length ≤ n := by
  simp only [List.length_append, List.length_cons] at enough
  omega

theorem length_next {n : Nat} {comma : Char} {s w w' rest : List Char}
    (enough : (s ++ (w ++ comma :: (w' ++ rest))).length ≤ n + 1) : s.length ≤ n ∧ rest.length ≤ n := by
  simp only [List.length_append, List.length_cons] at enough
  omega

/-! The three readers call each other with less fuel, and so do the proofs. -/

mutual

theorem value_passes : ∀ (levels fuel : Nat) {room : Nat} {t k : List Char}, ValueText room t → Stops k →
    t.length ≤ fuel → Passes (levels < room) k (value levels fuel (t ++ k))
  | _, 0, _, t, k, text, _, enough =>
    absurd (List.eq_nil_of_length_eq_zero (Nat.le_zero.1 enough)) text.opens.1.nonempty
  | levels, fuel + 1, room, t, k, text, stops, enough => by
    cases text with
    | atom atom =>
      obtain ⟨c, s, rfl, -, apart⟩ := atom.head
      rw [List.cons_append, value_of_atom apart]
      exact atom_passes atom stops
    | text string =>
      obtain ⟨codes, read⟩ := string_append levels (k := k) string (Nat.le_of_succ_le_succ enough)
      exact .inl ⟨.ofCodes codes, by simp [value, read]⟩
    | noItems blank =>
      have closed := skipSpace_append_cons (k := k) blank (c := ']') (by decide)
      cases levels with
      | zero => exact .inr (.tooDeep .list (Nat.succ_pos _))
      | succ inner => exact .inl ⟨.list [], by simp [value, closed]⟩
    | @list _ w s blank run =>
      have left := length_inside enough
      cases levels with
      | zero => exact .inr (.tooDeep .list (Nat.succ_pos _))
      | succ inner =>
        rw [List.cons_append, List.append_assoc, value_of_items blank (run.opens.append k)]
        exact ((items_passes inner fuel run left).map Value.list).mono Nat.succ_lt_succ
    | noMembers blank =>
      have closed := skipSpace_append_cons (k := k) blank (c := '}') (by decide)
      cases levels with
      | zero => exact .inr (.tooDeep .object (Nat.succ_pos _))
      | succ inner => exact .inl ⟨.object [], by simp [value, closed]⟩
    | @object _ w s blank run =>
      have left := length_inside enough
      cases levels with
      | zero => exact .inr (.tooDeep .object (Nat.succ_pos _))
      | succ inner =>
        rw [List.cons_append, List.append_assoc, value_of_members blank (run.opens.append k)]
        exact ((members_passes inner fuel [] run left).map Value.object).mono Nat.succ_lt_succ

theorem items_passes : ∀ (levels fuel : Nat) {room : Nat} {t k : List Char}, ItemsText room t → t.length ≤ fuel →
    Passes (levels < room) k (items levels fuel (t ++ k))
  | _, 0, _, t, k, run, enough =>
    absurd (List.eq_nil_of_length_eq_zero (Nat.le_zero.1 enough)) run.opens.nonempty
  | levels, fuel + 1, room, t, k, run, enough => by
    cases run with
    | @last _ s w item blank =>
      have left := length_last enough
      have closed := skipSpace_append_cons (k := k) blank (c := ']') (by decide)
      have first := value_passes levels fuel item (stops_blank blank (stops_bracket k)) left
      simp only [List.append_assoc, List.cons_append, List.nil_append]
      rcases first with ⟨v, read⟩ | up
      · exact .inl ⟨[v], by simp [items, read, closed]⟩
      · obtain ⟨e, refused, anywhere⟩ := up.refusal
        simpa only [items, refused] using .inr (anywhere _)
    | @next _ s w w' rest item blank blank' others =>
      have left := length_next enough
      have first := value_passes levels fuel item (stops_blank blank (stops_comma (w' ++ (rest ++ k)))) left.1
      simp only [List.append_assoc, List.cons_append]
      rcases first with ⟨v, read⟩ | up
      · rw [items_of_comma blank blank' (others.opens.append k) read]
        exact (items_passes levels fuel others left.2).map (v :: ·)
      · obtain ⟨e, refused, anywhere⟩ := up.refusal
        simpa only [items, refused] using .inr (anywhere _)

theorem members_passes : ∀ (levels fuel : Nat) (known : Members) {room : Nat} {t k : List Char}, MembersText room t →
    t.length ≤ fuel → Passes (levels < room) k (members levels fuel known (t ++ k))
  | _, 0, _, _, t, k, run, enough =>
    absurd (List.eq_nil_of_length_eq_zero (Nat.le_zero.1 enough)) run.opens.nonempty
  | levels, fuel + 1, known, room, t, k, run, enough => by
    cases run with
    | @last _ s w member blank =>
      have left := length_last enough
      have closed := skipSpace_append_cons (k := k) blank (c := '}') (by decide)
      have reads (t : List Char) (text : ValueText room t) (short : t.length ≤ fuel) :=
        value_passes levels fuel text (stops_blank blank (stops_brace k)) short
      simp only [List.append_assoc, List.cons_append, List.nil_append]
      rcases members_of_member known member left reads with up | ⟨known', read⟩
      · exact .inr up
      · exact .inl ⟨known', (read k).1 closed⟩
    | @next _ s w w' rest member blank blank' others =>
      have left := length_next enough
      have comma := skipSpace_append_cons (k := w' ++ (rest ++ k)) blank (c := ',') (by decide)
      have later := skipSpace_opens blank' (others.opens.append k)
      have reads (t : List Char) (text : ValueText room t) (short : t.length ≤ fuel) :=
        value_passes levels fuel text (stops_blank blank (stops_comma (w' ++ (rest ++ k)))) short
      simp only [List.append_assoc, List.cons_append]
      rcases members_of_member known member left.1 reads with up | ⟨known', read⟩
      · exact .inr up
      · rw [(read _).2 comma, later]
        exact members_passes levels fuel known' others left.2

end

end

theorem no_mark {room : Nat} {w t k more : List Char} (blank : Blank w) (text : ValueText room t) :
    w ++ (t ++ k) ≠ '\uFEFF' :: more := by
  intro mark
  cases w with
  | nil =>
    obtain ⟨c, s, rfl, -, apart⟩ := text.opens.2
    exact apart (List.cons.inj mark).1
  | cons c w =>
    have space := blank c List.mem_cons_self
    rw [(List.cons.inj mark).1] at space
    exact absurd space (by decide)

theorem readChars_passes (levels : Nat) {room : Nat} {s : List Char} (grammatical : GrammaticalWithin room s) :
    (∃ v, readChars levels s = .ok v) ∨ GivesUp (levels < room) (readChars levels s) := by
  obtain ⟨w, t, w', parts, blank, value, blank'⟩ := grammatical
  have ended : skipSpace (w' ++ []) = [] := skipSpace_append blank' (by simp)
  rw [List.append_nil] at ended
  have passes := value_passes levels (2 * s.length + 1) (k := w') value
    (by simpa using stops_blank blank' stops_nil) (by rw [parts]; simp; omega)
  have start := skipSpace_opens blank (value.opens.1.append w')
  unfold readChars
  split
  · exact absurd parts.symm (no_mark blank value)
  · rw [parts, start, ← parts]
    rcases passes with ⟨v, inside⟩ | up
    · exact .inl ⟨v, by simp only [inside, ended]⟩
    · obtain ⟨e, refused, anywhere⟩ := up.refusal
      simpa only [refused] using .inr (anywhere _)

/-- A text in the grammar has a value, unless an integer in it is beyond the limit or it may take more levels than
are left. -/
theorem read_of_grammatical (levels : Nat) {room : Nat} {text : String}
    (grammatical : GrammaticalWithin room text.toList) :
    (∃ v, readIn levels text = .ok v) ∨ (∃ digits, readIn levels text = .error (.tooLong digits)) ∨
      levels < room ∧ ∃ need, readIn levels text = .error (.tooDeep need) := by
  unfold readIn
  rcases readChars_passes levels grammatical with ⟨v, parsed⟩ | up
  · exact .inl ⟨v, by rw [parsed]; rfl⟩
  · obtain ⟨e, refused, anywhere⟩ := up.refusal
    rw [refused]
    cases anywhere Unit with
    | tooLong digits => exact .inr (.inl ⟨digits, rfl⟩)
    | tooDeep need less => exact .inr (.inr ⟨less, need, rfl⟩)

end ServiceLease.Json
