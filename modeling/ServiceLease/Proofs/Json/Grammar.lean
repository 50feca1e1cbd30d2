import ServiceLease.Proofs.Json.Limit

/-! The texts that are JSON, as a grammar, and how reading ends. What is read is in the grammar within the levels that
are left, and nothing but an integer beyond the limit that stands in the text is refused for the limit. -/
namespace ServiceLease.Json

def Blank (s : List Char) : Prop := ∀ c ∈ s, isSpace c = true

def Digits (s : List Char) : Prop := s ≠ [] ∧ ∀ c ∈ s, c.isDigit = true

inductive WholeText : List Char → Prop where
  | zero : WholeText ['0']
  | digits {s} : Digits s → s.head? ≠ some '0' → WholeText s

inductive FractionText : List Char → Prop where
  | none : FractionText []
  | digits {s} : Digits s → FractionText ('.' :: s)

inductive ExponentText : List Char → Prop where
  | none : ExponentText []
  | digits {mark sign s} : mark ∈ ['e', 'E'] → sign ∈ [[], ['+'], ['-']] → Digits s →
      ExponentText (mark :: (sign ++ s))

inductive UnsignedText : List Char → Prop where
  | parts {w f e} : WholeText w → FractionText f → ExponentText e → UnsignedText (w ++ (f ++ e))

def literals : List String := ["null", "true", "false"]

def constants : List String := ["NaN", "Infinity", "-Infinity"]

/-- A literal name or a number; a constant that is no JSON number takes a level. -/
inductive AtomText : Nat → List Char → Prop where
  | literal {levels name} : name ∈ literals → AtomText levels name.toList
  | constant {levels name} : name ∈ constants → AtomText (levels + 1) name.toList
  | number {levels s} : UnsignedText s → AtomText levels s
  | negative {levels s} : UnsignedText s → AtomText levels ('-' :: s)

inductive EscapeText : List Char → Prop where
  | sign {c} : c ∈ ['"', '\\', '/', 'b', 'f', 'n', 'r', 't'] → EscapeText [c]
  | unit {a b c d} : (∀ h ∈ [a, b, c, d], (Text.hexDigit? h).isSome) → EscapeText ['u', a, b, c, d]

/-- What follows the opening quote of a string, with the closing quote. -/
inductive StringText : List Char → Prop where
  | closed : StringText ['"']
  | char {c s} : 0x20 ≤ c.toNat → c ≠ '"' → c ≠ '\\' → StringText s → StringText (c :: s)
  | escape {e s} : EscapeText e → StringText s → StringText ('\\' :: (e ++ s))

mutual

/-- A value nested within so many levels, of which every list and every object takes one. -/
inductive ValueText : Nat → List Char → Prop where
  | atom {levels s} : AtomText levels s → ValueText levels s
  | text {levels s} : StringText s → ValueText levels ('"' :: s)
  | noItems {levels w} : Blank w → ValueText (levels + 1) ('[' :: (w ++ [']']))
  | list {levels w s} : Blank w → ItemsText levels s → ValueText (levels + 1) ('[' :: (w ++ s))
  | noMembers {levels w} : Blank w → ValueText (levels + 1) ('{' :: (w ++ ['}']))
  | object {levels w s} : Blank w → MembersText levels s → ValueText (levels + 1) ('{' :: (w ++ s))

inductive ItemsText : Nat → List Char → Prop where
  | last {levels s w} : ValueText levels s → Blank w → ItemsText levels (s ++ (w ++ [']']))
  | next {levels s w w' rest} : ValueText levels s → Blank w → Blank w' → ItemsText levels rest →
      ItemsText levels (s ++ (w ++ ',' :: (w' ++ rest)))

inductive MemberText : Nat → List Char → Prop where
  | colon {levels name w w' s} : StringText name → Blank w → Blank w' → ValueText levels s →
      MemberText levels ('"' :: (name ++ (w ++ ':' :: (w' ++ s))))

inductive MembersText : Nat → List Char → Prop where
  | last {levels s w} : MemberText levels s → Blank w → MembersText levels (s ++ (w ++ ['}']))
  | next {levels s w w' rest} : MemberText levels s → Blank w → Blank w' → MembersText levels rest →
      MembersText levels (s ++ (w ++ ',' :: (w' ++ rest)))

end

/-- One value with blanks around it. -/
def GrammaticalWithin (levels : Nat) (s : List Char) : Prop :=
  ∃ w t w', s = w ++ (t ++ w') ∧ Blank w ∧ ValueText levels t ∧ Blank w'

def Grammatical (s : List Char) : Prop := ∃ levels, GrammaticalWithin levels s

/-- Somewhere in a text stand so many digits that make an integer: no further digit, no fraction and no exponent
follows them. -/
def HoldsInteger (s : List Char) (digits : Nat) : Prop :=
  ∃ ds rest, ds ++ rest <:+ s ∧ ds.length = digits ∧ (∀ c ∈ ds, c.isDigit = true) ∧
    (∀ c ∈ rest.head?, c.isDigit = false) ∧ (fraction rest).1 = [] ∧ exponent? rest = none

/-- How reading may end: what was read is of its kind, and a refusal for the limit has its literal in the text. -/
inductive Ends {α : Type} (kind : List Char → Prop) (s : List Char) : Step α → Prop where
  | ok {a : α} {t rest : List Char} : s = t ++ rest → kind t → Ends kind s (.ok (a, rest))
  | malformed {cause : Cause} {left : Nat} : Ends kind s (.error (.malformed cause left))
  | tooLong {digits : Nat} : Decimal.digitLimit < digits → HoldsInteger s digits →
      Ends kind s (.error (.tooLong digits))
  | tooDeep {need : Descent} : Ends kind s (.error (.tooDeep need))

section

variable {α β : Type} {kind other : List Char → Prop} {s rest : List Char}

theorem HoldsInteger.earlier {digits : Nat} (held : HoldsInteger rest digits) (inside : rest <:+ s) :
    HoldsInteger s digits := by
  obtain ⟨ds, more, here, integer⟩ := held
  exact ⟨ds, more, here.trans inside, integer⟩

theorem Ends.front {r : Step α} {a : α} (ends : Ends kind s r) (done : r = .ok (a, rest)) :
    ∃ t, s = t ++ rest ∧ kind t := by
  subst done
  cases ends with
  | ok parts read => exact ⟨_, parts, read⟩

/-- A refusal goes through to the reader of the whole. -/
theorem Ends.refused {r : Step α} {e : Refusal} (ends : Ends kind rest r) (failed : r = .error e)
    (inside : rest <:+ s) : Ends other s (.error e : Step β) := by
  subst failed
  cases ends with
  | malformed => exact .malformed
  | tooLong many held => exact .tooLong many (held.earlier inside)
  | tooDeep => exact .tooDeep

theorem Ends.within {e : Refusal} (ends : Ends kind s (.error e : Step α)) (levels : Nat) :
    Ends kind s (.error (e.within levels) : Step α) := by
  cases ends with
  | malformed =>
    rw [Refusal.within]
    split
    · exact .tooDeep
    · exact .malformed
  | tooLong many held => exact .tooLong many held
  | tooDeep => exact .tooDeep

theorem failWithin_ends (levels : Nat) (cause : Cause) (left : List Char) :
    Ends kind s (failWithin levels cause left : Step α) :=
  Ends.malformed.within levels

/-- Reading that goes on behind what has been read. -/
theorem Ends.after {r : Step α} (ends : Ends kind rest r) (u : List Char) (parts : s = u ++ rest)
    (whole : ∀ t, kind t → other (u ++ t)) : Ends other s r := by
  subst parts
  cases ends with
  | ok split read => exact .ok (by rw [split, List.append_assoc]) (whole _ read)
  | malformed => exact .malformed
  | tooLong many held => exact .tooLong many (held.earlier (List.suffix_append u rest))
  | tooDeep => exact .tooDeep

theorem Ends.overlong {r : Step α} {digits : Nat} (ends : Ends kind s r) (failed : r = .error (.tooLong digits)) :
    Decimal.digitLimit < digits ∧ HoldsInteger s digits := by
  subst failed
  cases ends with
  | tooLong many held => exact ⟨many, held⟩

theorem skipSpace_split (s : List Char) : ∃ w, s = w ++ skipSpace s ∧ Blank w :=
  ⟨s.takeWhile isSpace, List.takeWhile_append_dropWhile.symm, List.all_eq_true.1 List.all_takeWhile⟩

/-! Numbers. -/

theorem digits_takeWhile {c : Char} (digit : c.isDigit = true) (s : List Char) :
    Digits (c :: s.takeWhile (·.isDigit)) := by
  refine ⟨List.cons_ne_nil _ _, fun d member => ?_⟩
  rcases List.mem_cons.1 member with rfl | later
  · exact digit
  · exact List.all_eq_true.1 List.all_takeWhile d later

/-- The digits stand before what is left. If they are more than a zero, all there are have been taken. -/
theorem whole?_split {ds : List Char} (read : whole? s = some (ds, rest)) :
    s = ds ++ rest ∧ WholeText ds ∧ (ds = ['0'] ∨ ∀ c ∈ rest.head?, c.isDigit = false) := by
  unfold whole? at read
  split at read
  · cases read
    exact ⟨rfl, .zero, .inl rfl⟩
  · next c more apart =>
    split at read
    · next digit =>
      cases read
      refine ⟨?_, .digits (digits_takeWhile digit more) fun zero => ?_, .inr fun d first => ?_⟩
      · rw [List.cons_append, List.takeWhile_append_dropWhile]
      · cases zero
        exact apart rfl
      · have stopped := List.head?_dropWhile_not (·.isDigit) more
        rwa [Option.mem_def.1 first] at stopped
    · cases read
  · cases read

theorem fraction_split (s : List Char) : ∃ f, s = f ++ (fraction s).2 ∧ FractionText f := by
  unfold fraction
  split
  · next c rest =>
    split
    · next digit => exact ⟨'.' :: c :: rest.takeWhile (·.isDigit), by simp, .digits (digits_takeWhile digit rest)⟩
    · exact ⟨[], rfl, .none⟩
  · exact ⟨[], rfl, .none⟩

theorem fraction_none (none : (fraction s).1 = []) : (fraction s).2 = s := by
  unfold fraction at none ⊢
  split
  · split
    · next digit => simp [digit] at none
    · rfl
  · rfl

theorem exponent?_split {e : Int} (read : exponent? s = some (e, rest)) : ∃ t, s = t ++ rest ∧ ExponentText t := by
  unfold exponent? at read
  split at read
  · next mark more =>
    split at read
    · next marked =>
      have letter : mark ∈ ['e', 'E'] := by simpa using marked
      have signed (sign body : List Char) (known : sign ∈ [[], ['+'], ['-']])
          (some : body.takeWhile (·.isDigit) ≠ []) :
          ∃ t, mark :: (sign ++ body) = t ++ body.dropWhile (·.isDigit) ∧ ExponentText t :=
        ⟨mark :: (sign ++ body.takeWhile (·.isDigit)), by simp,
          .digits letter known ⟨some, List.all_eq_true.1 List.all_takeWhile⟩⟩
      dsimp only at read
      split at read
      · cases read
      · next some =>
        cases read
        split at some
        · exact signed ['-'] _ (by decide) some
        · exact signed ['+'] _ (by decide) some
        · exact signed [] _ (by decide) some
    · cases read
  · cases read

theorem unsigned_ends {negative : Bool} {r : Except Refusal Value} (read : unsigned negative s = some (r, rest)) :
    Ends UnsignedText s (r.map fun v => (v, rest)) := by
  obtain ⟨⟨ds, left⟩, whole, made⟩ := Option.map_eq_some_iff.1 read
  obtain ⟨rfl, digits, taken⟩ := whole?_split whole
  obtain ⟨f, parts, fractional⟩ := fraction_split left
  simp only at made
  split at made
  · next exponent =>
    cases made
    obtain ⟨e, mark, exponential⟩ := exponent?_split exponent
    refine .ok ?_ (.parts digits fractional exponential)
    rw [List.append_assoc, List.append_assoc, ← mark, ← parts]
  · next exponent =>
    split at made
    · next point =>
      have fraction : (fraction left).1 = [] := List.isEmpty_iff.1 point
      split at made
      · cases made
        exact .ok (t := ds ++ ([] ++ [])) (by simp) (.parts digits .none .none)
      · next long =>
        cases made
        have many := Nat.not_le.1 long
        refine .tooLong many ⟨ds, rest, List.suffix_refl _, rfl, isDigit_of_whole? whole, ?_, fraction, ?_⟩
        · refine taken.resolve_left fun zero => ?_
          rw [zero] at many
          exact absurd many (by decide)
        · rwa [fraction_none fraction] at exponent
    · cases made
      refine .ok ?_ (.parts digits fractional .none)
      rw [List.append_nil, List.append_assoc, ← parts]

theorem number_ends (s : List Char) (negative : Bool) (rest : List Char) :
    Ends UnsignedText rest (atom.number s negative rest) := by
  unfold atom.number
  split
  · exact .malformed
  · next read => exact unsigned_ends read
  · next read => exact unsigned_ends read

theorem constant_ends (levels : Nat) (name : String) (known : name ∈ constants) (x : Binary64) (rest : List Char) :
    Ends (AtomText levels) (name.toList ++ rest) (constant levels x rest) := by
  unfold constant
  split
  · exact .tooDeep
  · next some =>
    obtain ⟨inner, rfl⟩ := Nat.exists_eq_succ_of_ne_zero some
    exact .ok rfl (.constant known)

theorem atom_ends (levels : Nat) (s : List Char) : Ends (AtomText levels) s (atom levels s) := by
  have literal (name : String) (known : name ∈ literals) {v : Value} (rest : List Char) :
      Ends (AtomText levels) (name.toList ++ rest) (.ok (v, rest)) := .ok rfl (.literal known)
  unfold atom
  split
  case h_1 => exact literal "null" (by decide) _
  case h_2 => exact literal "true" (by decide) _
  case h_3 => exact literal "false" (by decide) _
  case h_4 => exact constant_ends levels "NaN" (by decide) _ _
  case h_5 => exact constant_ends levels "Infinity" (by decide) _ _
  case h_6 => exact constant_ends levels "-Infinity" (by decide) _ _
  case h_7 rest _ => exact (number_ends _ true rest).after ['-'] rfl fun _ => .negative
  case h_8 => exact (number_ends _ false s).after [] rfl fun _ => .number

/-! Strings. -/

theorem unit?_split {n : Nat} (read : unit? s = some (n, rest)) :
    ∃ a b c d, s = a :: b :: c :: d :: rest ∧ EscapeText ['u', a, b, c, d] := by
  unfold unit? at read
  split at read
  · next a b c d e more =>
    simp only [Option.bind_eq_bind, Option.bind_eq_some_iff, Option.some.injEq, Prod.mk.injEq] at read
    obtain ⟨_, first, _, second, _, third, _, fourth, -, rfl⟩ := read
    exact ⟨a, b, c, d, rfl, .unit (by simp [first, second, third, fourth])⟩
  · cases read

/-- What may follow a backslash if a string goes on after it: an escape, or two of which the second stands for the
other half of a character. -/
def Escapes (e : List Char) : Prop := ∀ t, StringText t → StringText ('\\' :: (e ++ t))

theorem escape_ends (s : List Char) : Ends Escapes s (escape s) := by
  have sign (c : Char) (d : Nat) (known : c ∈ ['"', '\\', '/', 'b', 'f', 'n', 'r', 't']) (rest : List Char) :
      Ends Escapes (c :: rest) (.ok (d, rest)) := .ok (t := [c]) rfl fun _ => .escape (.sign known)
  unfold escape
  split
  case h_1 => exact sign '"' _ (by decide) _
  case h_2 => exact sign '\\' _ (by decide) _
  case h_3 => exact sign '/' _ (by decide) _
  case h_4 => exact sign 'b' _ (by decide) _
  case h_5 => exact sign 'f' _ (by decide) _
  case h_6 => exact sign 'n' _ (by decide) _
  case h_7 => exact sign 'r' _ (by decide) _
  case h_8 => exact sign 't' _ (by decide) _
  case h_9 rest =>
    split
    · exact .malformed
    · next high after first =>
      obtain ⟨a, b, c, d, rfl, one⟩ := unit?_split first
      have alone : Ends Escapes ('u' :: a :: b :: c :: d :: after) (.ok (high, after)) :=
        .ok (t := ['u', a, b, c, d]) rfl fun _ => .escape one
      split
      · next second _ =>
        split
        · exact alone
        · split
          · exact .malformed
          · next low more pair =>
            split
            · obtain ⟨a', b', c', d', rfl, other⟩ := unit?_split pair
              refine .ok (t := ['u', a, b, c, d, '\\', 'u', a', b', c', d']) rfl fun t string => ?_
              have both := StringText.escape one (.escape other string)
              exact both
            · exact alone
      · exact alone
  case h_10 => exact .malformed

theorem stringFrom_ends (start : List Char) (fuel : Nat) (s : List Char) :
    Ends StringText s (stringFrom start fuel s) := by
  induction fuel generalizing s with
  | zero => exact .malformed
  | succ fuel ih =>
    unfold stringFrom
    split
    · exact .malformed
    · exact .malformed
    · exact .ok (t := ['"']) rfl .closed
    · next rest _ =>
      split
      · next failed => exact (escape_ends rest).refused failed (List.suffix_cons '\\' rest)
      · next c more read =>
        obtain ⟨e, rfl, front⟩ := (escape_ends rest).front read
        have inside : more <:+ '\\' :: (e ++ more) := List.suffix_append ('\\' :: e) more
        split
        · next failed => exact (ih more).refused failed inside
        · next done =>
          obtain ⟨t, rfl, string⟩ := (ih more).front done
          exact .ok (t := '\\' :: (e ++ t)) (by simp) (front t string)
    · next c rest _ quote slash =>
      split
      · exact .malformed
      · next printable =>
        split
        · next failed => exact (ih rest).refused failed (List.suffix_cons c rest)
        · next done =>
          obtain ⟨t, rfl, string⟩ := (ih rest).front done
          have apart : c ≠ '"' ∧ c ≠ '\\' := ⟨by simpa using quote, by simpa using slash⟩
          exact .ok (t := c :: t) rfl (.char (Nat.not_lt.1 printable) apart.1 apart.2 string)

theorem string_ends (levels fuel : Nat) (s : List Char) : Ends StringText s (string levels fuel s) := by
  have ends := stringFrom_ends s fuel s
  unfold string
  split
  · next failed =>
    rw [failed] at ends
    exact ends.within levels
  · next done =>
    obtain ⟨t, parts, read⟩ := ends.front done
    exact .ok parts read

end

/-! Values. The three readers call each other with less fuel, and so do the proofs. -/

mutual

theorem value_ends : ∀ (levels fuel : Nat) (s : List Char), Ends (ValueText levels) s (value levels fuel s)
  | _, 0, s => .malformed
  | levels, fuel + 1, s => by
    unfold value
    split
    · next rest =>
      split
      · next failed => exact (string_ends levels fuel rest).refused failed (List.suffix_cons '"' rest)
      · next done =>
        obtain ⟨t, rfl, string⟩ := (string_ends levels fuel rest).front done
        exact .ok (t := '"' :: t) rfl (.text string)
    · next rest =>
      split
      · exact .tooDeep
      · next inner =>
        obtain ⟨w, gap, blank⟩ := skipSpace_split rest
        split
        · next closed =>
          rw [closed] at gap
          exact .ok (by simp [gap]) (.noItems blank)
        · have inside : skipSpace rest <:+ '[' :: rest := ⟨'[' :: w, by rw [List.cons_append, ← gap]⟩
          split
          · next failed => exact (items_ends inner fuel (skipSpace rest)).refused failed inside
          · next done =>
            obtain ⟨t, parts, run⟩ := (items_ends inner fuel (skipSpace rest)).front done
            rw [parts] at gap
            exact .ok (by simp [gap]) (.list blank run)
    · next rest =>
      split
      · exact .tooDeep
      · next inner =>
        obtain ⟨w, gap, blank⟩ := skipSpace_split rest
        split
        · next closed =>
          rw [closed] at gap
          exact .ok (by simp [gap]) (.noMembers blank)
        · have inside : skipSpace rest <:+ '{' :: rest := ⟨'{' :: w, by rw [List.cons_append, ← gap]⟩
          split
          · next failed => exact (members_ends inner fuel [] (skipSpace rest)).refused failed inside
          · next done =>
            obtain ⟨t, parts, run⟩ := (members_ends inner fuel [] (skipSpace rest)).front done
            rw [parts] at gap
            exact .ok (by simp [gap]) (.object blank run)
    · exact (atom_ends levels s).after [] rfl fun _ => .atom

theorem items_ends : ∀ (levels fuel : Nat) (s : List Char),
    Ends (ItemsText levels) s (items levels fuel s)
  | _, 0, s => .malformed
  | levels, fuel + 1, s => by
    unfold items
    split
    · next failed => exact (value_ends levels fuel s).refused failed (List.suffix_refl s)
    · next v rest done =>
      obtain ⟨t, rfl, item⟩ := (value_ends levels fuel s).front done
      obtain ⟨w, gap, blank⟩ := skipSpace_split rest
      split
      · next closed =>
        rw [closed] at gap
        exact .ok (by simp [gap]) (.last item blank)
      · next more comma =>
        obtain ⟨w', gap', blank'⟩ := skipSpace_split more
        rw [comma, gap'] at gap
        have inside : skipSpace more <:+ t ++ rest := ⟨t ++ (w ++ ',' :: w'), by simp [gap]⟩
        split
        · next failed => exact (items_ends levels fuel (skipSpace more)).refused failed inside
        · next done =>
          obtain ⟨others, parts, run⟩ := (items_ends levels fuel (skipSpace more)).front done
          rw [parts] at gap
          exact .ok (by simp [gap]) (.next item blank blank' run)
      · exact failWithin_ends levels _ _

theorem members_ends : ∀ (levels fuel : Nat) (known : Members) (s : List Char),
    Ends (MembersText levels) s (members levels fuel known s)
  | _, 0, known, s => .malformed
  | levels, fuel + 1, known, s => by
    unfold members
    split
    · next rest =>
      split
      · next failed => exact (string_ends levels fuel rest).refused failed (List.suffix_cons '"' rest)
      · next name afterName done =>
        obtain ⟨n, rfl, string⟩ := (string_ends levels fuel rest).front done
        obtain ⟨w, gap, blank⟩ := skipSpace_split afterName
        split
        · next more colon =>
          obtain ⟨w', gap', blank'⟩ := skipSpace_split more
          rw [colon, gap'] at gap
          split
          · next failed =>
            refine (value_ends levels fuel (skipSpace more)).refused failed ⟨'"' :: (n ++ (w ++ ':' :: w')), ?_⟩
            simp [gap]
          · next v afterValue done =>
            obtain ⟨t, parts, value⟩ := (value_ends levels fuel (skipSpace more)).front done
            have member := MemberText.colon string blank blank' value
            obtain ⟨u, between, blank⟩ := skipSpace_split afterValue
            rw [parts] at gap
            dsimp only
            split
            · next closed =>
              rw [closed] at between
              exact .ok (by simp [gap, between]) (.last member blank)
            · next later comma =>
              obtain ⟨u', after, blank'⟩ := skipSpace_split later
              rw [comma, after] at between
              refine (members_ends levels fuel _ (skipSpace later)).after
                ('"' :: (n ++ (w ++ ':' :: (w' ++ t))) ++ (u ++ ',' :: u')) ?_ fun others run => ?_
              · simp [gap, between]
              · have whole := MembersText.next member blank blank' run
                simpa using whole
            · exact failWithin_ends levels _ _
        · exact failWithin_ends levels _ _
    · exact failWithin_ends levels _ _

end

theorem readChars_ends (levels : Nat) (s : List Char) :
    Ends (GrammaticalWithin levels) s ((readChars levels s).map fun v => (v, [])) := by
  obtain ⟨w, front, blank⟩ := skipSpace_split s
  have ends := value_ends levels (2 * s.length + 1) (skipSpace s)
  unfold readChars
  split
  · exact .malformed
  · split
    · next failed => exact ends.refused failed ⟨w, front.symm⟩
    · next v rest done =>
      obtain ⟨t, parts, value⟩ := ends.front done
      obtain ⟨w', back, blank'⟩ := skipSpace_split rest
      split
      · next ended =>
        rw [ended, List.append_nil] at back
        rw [parts, back] at front
        exact .ok (List.append_nil s).symm ⟨w, t, w', front, blank, value, blank'⟩
      · exact .malformed

/-- A text with a value is in the grammar, within the levels that were left. -/
theorem grammatical_of_read {levels : Nat} {text : String} {v : Value} (parsed : readIn levels text = .ok v) :
    GrammaticalWithin levels text.toList := by
  have first := mapError_eq_ok_iff.1 parsed
  have ends := readChars_ends levels text.toList
  rw [first] at ends
  obtain ⟨t, whole, grammatical⟩ := ends.front rfl
  rwa [whole, List.append_nil]

/-- A text is refused for the limit only if it holds an integer beyond it. -/
theorem holdsInteger_of_read {levels : Nat} {text : String} {digits : Nat}
    (refused : readIn levels text = .error (.tooLong digits)) :
    Decimal.digitLimit < digits ∧ HoldsInteger text.toList digits := by
  have ends := readChars_ends levels text.toList
  unfold readIn at refused
  cases parsed : readChars levels text.toList with
  | ok v =>
    rw [parsed] at refused
    cases refused
  | error e =>
    rw [parsed] at refused ends
    cases e with
    | malformed => cases refused
    | tooDeep => cases refused
    | tooLong =>
      cases refused
      exact ends.overlong rfl

end ServiceLease.Json
