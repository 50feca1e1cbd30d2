import ServiceLease.Proofs.Number.Limit

/-! The texts that are read as numbers, as a grammar. A numeral of a wire field is a sign, leading
zeros with underscores as they please, digits with single underscores between them, and a
fraction of zeros. Everything but the digits may be missing. -/
namespace ServiceLease.Numeral

inductive Groups (digit? : Char → Option Nat) : List Char → List Nat → Prop where
  | one {c d} : digit? c = some d → Groups digit? [c] [d]
  | next {c d s ds} : digit? c = some d → Groups digit? s ds → Groups digit? (c :: s) (d :: ds)
  | apart {c d s ds} : digit? c = some d → Groups digit? s ds → Groups digit? (c :: '_' :: s) (d :: ds)

inductive SignText : List Char → Bool → Prop where
  | none : SignText [] false
  | plus : SignText ['+'] false
  | minus : SignText ['-'] true

/-- A zero and after it zeros and underscores, or nothing. -/
inductive Padding : List Char → Prop where
  | none : Padding []
  | zeros {run} : (∀ c ∈ run, c = '0' ∨ c = '_') → Padding ('0' :: run)

inductive ZeroFraction : List Char → Prop where
  | none : ZeroFraction []
  | zeros (n : Nat) : ZeroFraction ('.' :: '0' :: List.replicate n '0')

/-- A numeral of a wire field with its sign and its digits. A minus may stand behind leading zeros if none stands
before them; it may have an underscore after it, but no zeros that lead its digits. -/
inductive Spells : List Char → Bool → List Nat → Prop where
  | plain {front pad digits fraction negative ds} : SignText front negative → Padding pad →
      Groups Text.asciiDigit? digits ds → ZeroFraction fraction →
      Spells (front ++ (pad ++ (digits ++ fraction))) negative ds
  | inner {front run gap digits fraction ds} : SignText front false → (∀ c ∈ run, c = '0' ∨ c = '_') →
      gap ∈ [[], ['_']] → Groups Text.asciiDigit? digits ds → leads ds = true → ZeroFraction fraction →
      Spells (front ++ '0' :: (run ++ '-' :: (gap ++ (digits ++ fraction)))) true ds

inductive MinusText : List Char → Bool → Prop where
  | none : MinusText [] false
  | minus : MinusText ['-'] true

/-- A text that begins with more digits than the limit, of which the first is no zero. -/
inductive BeginsLong (minusCounts : Bool) : List Char → Prop where
  | digits {front run rest negative} : MinusText front negative → (∀ c ∈ run, c.isDigit = true) →
      run.head? ≠ some '0' → Decimal.digitLimit < run.length + charge minusCounts negative →
      BeginsLong minusCounts (front ++ (run ++ rest))

theorem valueOf_eq_of_significant {ds es : List Nat} (same : significant ds = significant es) :
    Decimal.valueOf ds = Decimal.valueOf es := by
  rw [← Decimal.valueOf_dropWhile ds, ← Decimal.valueOf_dropWhile es]
  exact congrArg Decimal.valueOf same

/-! Digits in groups. -/

theorem groups_of_grouped {digit? : Char → Option Nat} {s : List Char} {ds : List Nat}
    (read : grouped digit? s = some ds) : Groups digit? s ds := by
  fun_induction grouped digit? s generalizing ds with
  | case1 => cases read
  | case2 c =>
    obtain ⟨d, digit, rfl⟩ := Option.map_eq_some_iff.1 read
    exact .one digit
  | case3 c rest ih =>
    obtain ⟨d, digit, others⟩ := Option.bind_eq_some_iff.1 read
    obtain ⟨es, tail, rfl⟩ := Option.map_eq_some_iff.1 others
    exact .apart digit (ih tail)
  | case4 c rest _ _ ih =>
    obtain ⟨d, digit, others⟩ := Option.bind_eq_some_iff.1 read
    obtain ⟨es, tail, rfl⟩ := Option.map_eq_some_iff.1 others
    exact .next digit (ih tail)

theorem Groups.head {digit? : Char → Option Nat} {s : List Char} {ds : List Nat} (groups : Groups digit? s ds) :
    ∃ c d rest, s = c :: rest ∧ digit? c = some d := by
  cases groups with
  | one digit => exact ⟨_, _, _, rfl, digit⟩
  | next digit _ => exact ⟨_, _, _, rfl, digit⟩
  | apart digit _ => exact ⟨_, _, _, rfl, digit⟩

theorem Groups.mem {digit? : Char → Option Nat} {s : List Char} {ds : List Nat} (groups : Groups digit? s ds)
    {c : Char} (member : c ∈ s) : c = '_' ∨ ∃ d, digit? c = some d := by
  induction groups with
  | one digit =>
    obtain rfl := List.mem_singleton.1 member
    exact .inr ⟨_, digit⟩
  | next digit _ ih =>
    rcases List.mem_cons.1 member with rfl | later
    · exact .inr ⟨_, digit⟩
    · exact ih later
  | apart digit _ ih =>
    rcases List.mem_cons.1 member with rfl | later
    · exact .inr ⟨_, digit⟩
    · rcases List.mem_cons.1 later with rfl | later
      · exact .inl rfl
      · exact ih later

theorem Groups.head_ne_zero {c : Char} {s : List Char} {ds : List Nat}
    (groups : Groups Text.asciiDigit? (c :: s) ds) (other : c ≠ '0') : ds.head? ≠ some 0 := by
  have value {d : Nat} (digit : Text.asciiDigit? c = some d) : d ≠ 0 := by
    unfold Text.asciiDigit? at digit
    split at digit
    · next some =>
      cases digit
      have bounds := Char.isDigit_iff_toNat.1 some
      have apart : c.toNat ≠ 0x30 := fun same => other (Char.toNat_inj.1 same)
      simp at bounds ⊢
      omega
    · cases digit
  cases groups with
  | one digit => simpa using value digit
  | next digit _ => simpa using value digit
  | apart digit _ => simpa using value digit

theorem leads_of_head {ds : List Nat} (other : ds.head? ≠ some 0) : leads ds = true := by
  simp [leads, other]

theorem significant_of_head {ds : List Nat} (other : ds.head? ≠ some 0) : significant ds = ds := by
  cases ds with
  | nil => rfl
  | cons d ds => exact List.dropWhile_cons_of_neg (by simpa using other)

/-- Digits at the front of a text count one by one. -/
theorem Groups.length_le {digit? : Char → Option Nat} {run rest : List Char} {ds : List Nat}
    (groups : Groups digit? (run ++ rest) ds) (plain : '_' ∉ run) : run.length ≤ ds.length := by
  generalize whole : run ++ rest = s at groups
  induction groups generalizing run with
  | one digit =>
    have length := congrArg List.length whole
    simp at length ⊢
    omega
  | next digit _ ih =>
    cases run with
    | nil => exact Nat.zero_le _
    | cons c run =>
      obtain ⟨-, tail⟩ := List.cons.inj whole
      exact Nat.succ_le_succ (ih (fun inside => plain (List.mem_cons_of_mem c inside)) tail)
  | apart digit _ ih =>
    cases run with
    | nil => exact Nat.zero_le _
    | cons c run =>
      obtain ⟨-, tail⟩ := List.cons.inj whole
      cases run with
      | nil => simp
      | cons d run =>
        obtain ⟨rfl, -⟩ := List.cons.inj tail
        exact absurd (by simp) plain

/-- The reader takes an underscore for one between digits wherever it can, so it must not be a
digit itself. -/
theorem grouped_of_groups {digit? : Char → Option Nat} (plain : digit? '_' = none) {s : List Char} {ds : List Nat}
    (groups : Groups digit? s ds) : grouped digit? s = some ds := by
  induction groups with
  | one digit => rw [grouped, digit, Option.map_some]
  | @next c d s ds digit rest ih =>
    obtain ⟨e, _, others, rfl, first⟩ := rest.head
    rw [grouped, digit, ih]
    · rfl
    · exact List.cons_ne_nil _ _
    · rintro tail same
      obtain ⟨rfl, -⟩ := List.cons.inj same
      rw [plain] at first
      cases first
  | apart digit _ ih =>
    rw [grouped, digit, ih]
    rfl

theorem asciiDigit?_underscore : Text.asciiDigit? '_' = none := by decide

theorem isDigit_of_asciiDigit? {c : Char} {d : Nat} (digit : Text.asciiDigit? c = some d) : c.isDigit = true := by
  unfold Text.asciiDigit? at digit
  split at digit
  · assumption
  · cases digit

/-! Signs. -/

theorem sign_split (s : List Char) : ∃ front, s = front ++ (sign s).2 ∧ SignText front (sign s).1 := by
  unfold sign
  split
  · exact ⟨['-'], rfl, .minus⟩
  · exact ⟨['+'], rfl, .plus⟩
  · exact ⟨[], rfl, .none⟩

theorem sign_append {front body : List Char} {negative : Bool} (text : SignText front negative) {c : Char}
    (first : body.head? = some c) (digit : c.isDigit = true) : sign (front ++ body) = (negative, body) := by
  cases text with
  | plus => rfl
  | minus => rfl
  | none =>
    rw [List.nil_append, sign]
    · rintro rest rfl
      cases first
      exact absurd digit (by decide)
    · rintro rest rfl
      cases first
      exact absurd digit (by decide)

/-! Fractions. -/

theorem dropZeroFraction_split (s : List Char) :
    ∃ fraction, s = dropZeroFraction s ++ fraction ∧ ZeroFraction fraction := by
  unfold dropZeroFraction
  split
  · next rest found =>
    split
    · next zeros =>
      refine ⟨'.' :: '0' :: rest, ?_, ?_⟩
      · rw [← found, List.takeWhile_append_dropWhile]
      · have same : rest = List.replicate rest.length '0' :=
          List.eq_replicate_iff.2 ⟨rfl, by simpa using zeros⟩
        rw [same]
        exact .zeros _
    · exact ⟨[], (List.append_nil s).symm, .none⟩
  · exact ⟨[], (List.append_nil s).symm, .none⟩

theorem dropZeroFraction_append {s fraction : List Char} (whole : ∀ c ∈ s, c ≠ '.') (zeros : ZeroFraction fraction) :
    dropZeroFraction (s ++ fraction) = s := by
  have front : ∀ c ∈ s, (c != '.') = true := fun c member => bne_iff_ne.2 (whole c member)
  rw [dropZeroFraction, List.takeWhile_append_of_pos front, List.dropWhile_append_of_pos front]
  cases zeros with
  | none => simp
  | zeros n => simp

/-- Digits at the front of a text are no part of its fraction. -/
theorem dropZeroFraction_digits {run : List Char} (digits : ∀ c ∈ run, c.isDigit = true) (rest : List Char) :
    ∃ tail, dropZeroFraction (run ++ rest) = run ++ tail := by
  obtain ⟨fraction, split, zeros⟩ := dropZeroFraction_split (run ++ rest)
  rcases List.append_eq_append_iff.1 split with ⟨t, inside, -⟩ | ⟨t, inside, point⟩
  · exact ⟨t, inside⟩
  · refine ⟨[], ?_⟩
    cases t with
    | nil => exact (inside.trans (List.append_nil _)).symm.trans (List.append_nil _).symm
    | cons d t =>
      have digit : d.isDigit = true := digits d (by rw [inside]; simp)
      cases zeros with
      | none => cases point
      | zeros n =>
        obtain ⟨rfl, -⟩ := List.cons.inj point
        exact absurd digit (by decide)

/-! Leading zeros. -/

/-- What is dropped is a run of zeros and underscores. -/
theorem afterZeros_split {last : Char} (padding : last = '0' ∨ last = '_') (s : List Char) :
    ∃ run, last :: s = run ++ afterZeros last s ∧ ∀ c ∈ run, c = '0' ∨ c = '_' := by
  induction s generalizing last with
  | nil => exact ⟨[], rfl, by simp⟩
  | cons c rest ih =>
    rw [afterZeros]
    split
    · next more =>
      obtain ⟨run, split, zeros⟩ := @ih c (by simpa using more)
      exact ⟨last :: run, congrArg (last :: ·) split, List.forall_mem_cons.2 ⟨padding, zeros⟩⟩
    · split
      · exact ⟨[last], rfl, by simpa using padding⟩
      · exact ⟨[], rfl, by simp⟩

theorem innerSign_split (negative : Bool) (s : List Char) :
    innerSign negative s = (negative, s) ∨
    (negative = false ∧
      ∃ gap rest, gap ∈ [[], ['_']] ∧ s = '-' :: (gap ++ rest) ∧ innerSign negative s = (true, rest)) := by
  unfold innerSign
  split
  · exact .inr ⟨rfl, ['_'], _, by simp, rfl, rfl⟩
  · exact .inr ⟨rfl, [], _, by simp, rfl, rfl⟩
  · exact .inl rfl

theorem innerSign_of_head {negative : Bool} {s : List Char} {c : Char} (first : s.head? = some c)
    (digit : c.isDigit = true) : innerSign negative s = (negative, s) := by
  rcases innerSign_split negative s with same | ⟨-, gap, rest, -, rfl, -⟩
  · exact same
  · cases first
    exact absurd digit (by decide)

/-- What is dropped is a run of zeros and underscores, and with it a minus and an underscore or nothing. -/
theorem dropZeros_split {negative side : Bool} {s body : List Char} (dropped : dropZeros negative s = (side, body)) :
    (side = negative ∧ ∃ pad, s = pad ++ body ∧ Padding pad) ∨
    (negative = false ∧ side = true ∧ ∃ run gap, s = '0' :: (run ++ '-' :: (gap ++ body)) ∧
      (∀ c ∈ run, c = '0' ∨ c = '_') ∧ gap ∈ [[], ['_']]) := by
  unfold dropZeros at dropped
  split at dropped
  · next rest =>
    obtain ⟨run, parts, zeros⟩ := afterZeros_split (.inl rfl) rest
    rcases innerSign_split negative (afterZeros '0' rest) with same | ⟨rfl, gap, tail, gaps, minus, moved⟩
    · rw [same] at dropped
      cases dropped
      cases run with
      | nil => exact .inl ⟨rfl, [], parts, .none⟩
      | cons c run =>
        obtain ⟨rfl, -⟩ := List.cons.inj parts
        exact .inl ⟨rfl, _, parts, .zeros fun d member => zeros d (List.mem_cons_of_mem _ member)⟩
    · rw [moved] at dropped
      cases dropped
      rw [minus] at parts
      cases run with
      | nil => cases parts
      | cons c run =>
        obtain ⟨rfl, -⟩ := List.cons.inj parts
        exact .inr ⟨rfl, rfl, run, gap, parts, fun d member => zeros d (List.mem_cons_of_mem _ member), gaps⟩
  · cases dropped
    exact .inl ⟨rfl, [], rfl, .none⟩

theorem afterZeros_append {run : List Char} (zeros : ∀ c ∈ run, c = '0' ∨ c = '_') (last : Char) (s : List Char) :
    ∃ final, afterZeros last (run ++ s) = afterZeros final s := by
  induction run generalizing last with
  | nil => exact ⟨last, rfl⟩
  | cons c run ih =>
    obtain ⟨here, later⟩ := List.forall_mem_cons.1 zeros
    obtain ⟨final, same⟩ := ih later c
    refine ⟨final, ?_⟩
    rw [List.cons_append, afterZeros, if_pos (by simpa using here), same]

/-- Digits after a run lose their leading zeros, and nothing that counts. -/
theorem afterZeros_groups {digits fraction : List Char} {ds : List Nat} (groups : Groups Text.asciiDigit? digits ds)
    (zeros : ZeroFraction fraction) (last : Char) :
    ∃ kept es, afterZeros last (digits ++ fraction) = kept ++ fraction ∧ Groups Text.asciiDigit? kept es ∧
      leads es = true ∧ significant es = significant ds := by
  have solid {c : Char} {d : Nat} (digit : Text.asciiDigit? c = some d) (other : c ≠ '0') (last : Char)
      (s : List Char) : afterZeros last (c :: s) = c :: s := by
    have apart : c ≠ '_' := ne_underscore_of_isDigit (isDigit_of_asciiDigit? digit)
    rw [afterZeros, if_neg (by simp [other, apart]), if_pos (by simp [isDigit_of_asciiDigit? digit])]
  induction groups generalizing last with
  | @one c d digit =>
    refine ⟨[c], [d], ?_, .one digit, by simp [leads], rfl⟩
    by_cases zero : c = '0'
    · subst zero
      cases zeros <;> rfl
    · exact solid digit zero last fraction
  | @next c d s ds digit rest ih =>
    by_cases zero : c = '0'
    · subst zero
      cases digit
      exact ih '0'
    · have leading := leads_of_head ((Groups.next digit rest).head_ne_zero zero)
      exact ⟨c :: s, d :: ds, solid digit zero last _, .next digit rest, leading, rfl⟩
  | @apart c d s ds digit rest ih =>
    by_cases zero : c = '0'
    · subst zero
      cases digit
      exact ih '_'
    · have leading := leads_of_head ((Groups.apart digit rest).head_ne_zero zero)
      exact ⟨c :: '_' :: s, d :: ds, solid digit zero last _, .apart digit rest, leading, rfl⟩

theorem dropZeros_append (negative : Bool) {pad digits fraction : List Char} {ds : List Nat} (padding : Padding pad)
    (groups : Groups Text.asciiDigit? digits ds) (zeros : ZeroFraction fraction) :
    ∃ kept es, dropZeros negative (pad ++ (digits ++ fraction)) = (negative, kept ++ fraction) ∧
      Groups Text.asciiDigit? kept es ∧ leads es = true ∧ significant es = significant ds := by
  have dropped (last : Char) {rest : List Char} (after : afterZeros '0' rest = afterZeros last (digits ++ fraction)) :
      ∃ kept es, dropZeros negative ('0' :: rest) = (negative, kept ++ fraction) ∧
        Groups Text.asciiDigit? kept es ∧ leads es = true ∧ significant es = significant ds := by
    obtain ⟨kept, es, same, others, leading, value⟩ := afterZeros_groups groups zeros last
    obtain ⟨c, d, more, rfl, digit⟩ := others.head
    refine ⟨_, es, ?_, others, leading, value⟩
    rw [dropZeros, after, same]
    exact innerSign_of_head rfl (isDigit_of_asciiDigit? digit)
  cases padding with
  | zeros run =>
    obtain ⟨final, same⟩ := afterZeros_append run '0' (digits ++ fraction)
    exact dropped final same
  | none =>
    obtain ⟨c, d, rest, rfl, digit⟩ := groups.head
    by_cases zero : c = '0'
    · subst zero
      exact dropped '0' rfl
    · refine ⟨c :: rest, ds, ?_, groups, leads_of_head (groups.head_ne_zero zero), rfl⟩
      rw [List.nil_append, List.cons_append, dropZeros]
      rintro tail same
      exact zero (List.cons.inj same).1

theorem dropZeros_inner {run gap digits fraction : List Char} {ds : List Nat} (zeros : ∀ c ∈ run, c = '0' ∨ c = '_')
    (gaps : gap ∈ [[], ['_']]) (groups : Groups Text.asciiDigit? digits ds) :
    dropZeros false ('0' :: (run ++ '-' :: (gap ++ (digits ++ fraction)))) = (true, digits ++ fraction) := by
  obtain ⟨final, same⟩ := afterZeros_append zeros '0' ('-' :: (gap ++ (digits ++ fraction)))
  have stopped : afterZeros final ('-' :: (gap ++ (digits ++ fraction))) = '-' :: (gap ++ (digits ++ fraction)) := by
    simp [afterZeros]
  obtain ⟨c, d, rest, rfl, digit⟩ := groups.head
  have plain : c ≠ '_' := ne_underscore_of_isDigit (isDigit_of_asciiDigit? digit)
  simp only [List.mem_cons, List.not_mem_nil, or_false] at gaps
  rw [dropZeros, same, stopped]
  rcases gaps with rfl | rfl
  · simp [innerSign, plain]
  · rfl

/-! Numerals of wire fields. -/

/-- The sign and the digits of a text, once leading zeros and the fraction are off. -/
def fieldDigits? (s : List Char) : Option (Bool × List Nat) :=
  let (negative, digits) := dropZeros (sign s).1 (sign s).2
  (grouped Text.asciiDigit? (dropZeroFraction digits)).map (negative, ·)

theorem ofField_eq (minusCounts : Bool) (s : String) :
    ofField minusCounts s =
      if startsTooLong minusCounts s.toList then .error .tooLong
      else match fieldDigits? (Text.trim Text.isWhiteSpace s.toList) with
        | none => .error .malformed
        | some (negative, ds) =>
          if leads ds && count minusCounts negative ds ≤ Decimal.digitLimit then
            .ok (signed negative (Decimal.valueOf ds))
          else .error .malformed := by
  unfold ofField fieldDigits?
  dsimp only
  cases grouped Text.asciiDigit? (dropZeroFraction (dropZeros _ _).2) <;> rfl

theorem spells_of_fieldDigits? {s : List Char} {negative : Bool} {ds : List Nat}
    (read : fieldDigits? s = some (negative, ds)) (leading : leads ds = true) : Spells s negative ds := by
  obtain ⟨front, whole, text⟩ := sign_split s
  unfold fieldDigits? at read
  split at read
  next side body dropped =>
    obtain ⟨es, digits, same⟩ := Option.map_eq_some_iff.1 read
    cases same
    have groups := groups_of_grouped digits
    obtain ⟨fraction, tail, zeros⟩ := dropZeroFraction_split body
    rcases dropZeros_split dropped with ⟨rfl, pad, parts, padding⟩ | ⟨unsigned, rfl, run, gap, parts, others, gaps⟩
    · have spells := Spells.plain text padding groups zeros
      rwa [← tail, ← parts, ← whole] at spells
    · rw [unsigned] at text
      have spells := Spells.inner text others gaps groups leading zeros
      rwa [← tail, ← parts, ← whole] at spells

/-- A text has one sign, and its digits differ at most in leading zeros. -/
theorem fieldDigits?_of_spells {s : List Char} {negative : Bool} {ds : List Nat} (spells : Spells s negative ds) :
    ∃ es, fieldDigits? s = some (negative, es) ∧ leads es = true ∧ significant es = significant ds := by
  have read {kept fraction : List Char} {es : List Nat} (groups : Groups Text.asciiDigit? kept es)
      (zeros : ZeroFraction fraction) : grouped Text.asciiDigit? (dropZeroFraction (kept ++ fraction)) = some es := by
    have whole : ∀ c ∈ kept, c ≠ '.' := by
      rintro c member rfl
      rcases groups.mem member with same | ⟨d, digit⟩
      · exact absurd same (by decide)
      · cases digit
    rw [dropZeroFraction_append whole zeros, grouped_of_groups asciiDigit?_underscore groups]
  cases spells with
  | @plain front pad digits fraction _ _ text padding groups zeros =>
    obtain ⟨c, first, digit⟩ : ∃ c, (pad ++ (digits ++ fraction)).head? = some c ∧ c.isDigit = true := by
      cases padding with
      | zeros run => exact ⟨'0', rfl, by decide⟩
      | none =>
        obtain ⟨c, d, rest, rfl, digit⟩ := groups.head
        exact ⟨c, rfl, isDigit_of_asciiDigit? digit⟩
    obtain ⟨kept, es, dropped, others, leading, same⟩ := dropZeros_append negative padding groups zeros
    refine ⟨es, ?_, leading, same⟩
    simp only [fieldDigits?, sign_append text first digit, dropped, read others zeros, Option.map_some]
  | @inner front run gap digits fraction _ text others gaps groups leading zeros =>
    have first : ('0' :: (run ++ '-' :: (gap ++ (digits ++ fraction)))).head? = some '0' := rfl
    refine ⟨ds, ?_, leading, rfl⟩
    simp only [fieldDigits?, sign_append text first (by decide), dropZeros_inner others gaps groups,
      read groups zeros, Option.map_some]

section

variable {minusCounts : Bool}

theorem charge_le (minusCounts negative : Bool) : charge minusCounts negative ≤ 1 := by
  unfold charge
  split <;> decide

theorem run_of_long {run : List Char} {negative : Bool}
    (long : Decimal.digitLimit < run.length + charge minusCounts negative) : run ≠ [] := by
  rintro rfl
  have one := charge_le minusCounts negative
  simp [Decimal.digitLimit] at long
  omega

theorem startsTooLong_iff {s : List Char} : startsTooLong minusCounts s = true ↔ BeginsLong minusCounts s := by
  constructor
  · intro starts
    have found {front body : List Char} {negative : Bool} (text : MinusText front negative)
        (long : ((body.takeWhile (·.isDigit)).head? != some '0' &&
          decide (Decimal.digitLimit < (body.takeWhile (·.isDigit)).length + charge minusCounts negative)) = true) :
        BeginsLong minusCounts (front ++ body) := by
      rw [Bool.and_eq_true, bne_iff_ne, decide_eq_true_eq] at long
      have run : BeginsLong minusCounts (front ++ (body.takeWhile (·.isDigit) ++ body.dropWhile (·.isDigit))) :=
        .digits text (List.all_eq_true.1 List.all_takeWhile) long.1 long.2
      rwa [List.takeWhile_append_dropWhile] at run
    unfold startsTooLong at starts
    split at starts
    next negative body parts =>
      split at parts
      · cases parts
        exact found .minus starts
      · cases parts
        exact found .none starts
  · intro begins
    cases begins with
    | @digits front run rest negative text digits leading long =>
      obtain ⟨c, more, rfl⟩ := List.exists_cons_of_ne_nil (run_of_long long)
      have taken : (c :: (more ++ rest)).takeWhile (·.isDigit) = c :: more ++ rest.takeWhile (·.isDigit) :=
        List.takeWhile_append_of_pos digits
      have longer : Decimal.digitLimit <
          (c :: more ++ rest.takeWhile (·.isDigit)).length + charge minusCounts negative := by
        rw [List.length_append]
        omega
      have first : c ≠ '0' := by simpa using leading
      have minus : c ≠ '-' := by
        rintro rfl
        exact absurd (digits '-' List.mem_cons_self) (by decide)
      cases text with
      | none => simpa [startsTooLong, minus, taken, first] using longer
      | minus => simpa [startsTooLong, taken, first] using longer

/-- A text that begins with digits has them all in its numeral. -/
theorem length_le_of_spells {front run rest : List Char} {side negative : Bool} {ds : List Nat}
    (text : MinusText front side) (some? : run ≠ []) (digits : ∀ c ∈ run, c.isDigit = true)
    (leading : run.head? ≠ some '0') (spells : Spells (front ++ (run ++ rest)) negative ds) :
    negative = side ∧ run.length ≤ (significant ds).length := by
  obtain ⟨es, read, -, same⟩ := fieldDigits?_of_spells spells
  obtain ⟨c, more, rfl⟩ := List.exists_cons_of_ne_nil some?
  have first : c ≠ '0' := by simpa using leading
  have signed : sign (front ++ (c :: more ++ rest)) = (side, c :: more ++ rest) := by
    cases text with
    | none => exact sign_append .none rfl (digits c List.mem_cons_self)
    | minus => rfl
  have kept : dropZeros side (c :: more ++ rest) = (side, c :: more ++ rest) := by
    rw [List.cons_append, dropZeros]
    rintro tail parts
    exact first (List.cons.inj parts).1
  simp only [fieldDigits?, signed, kept, Option.map_eq_some_iff, Prod.mk.injEq] at read
  obtain ⟨_, grouped, rfl, rfl⟩ := read
  refine ⟨rfl, ?_⟩
  obtain ⟨tail, parts⟩ := dropZeroFraction_digits digits rest
  have groups := groups_of_grouped grouped
  rw [parts] at groups
  have value := significant_of_head (groups.head_ne_zero first)
  rw [← same, value]
  exact groups.length_le fun inside => absurd (digits _ inside) (by decide)

theorem not_beginsLong_of_spells {s : List Char} {negative : Bool} {ds : List Nat}
    (spells : Spells (Text.trim Text.isWhiteSpace s) negative ds)
    (short : count minusCounts negative ds ≤ Decimal.digitLimit) : ¬ BeginsLong minusCounts s := by
  intro begins
  cases begins with
  | @digits front run rest side text digits leading long =>
    have some? := run_of_long long
    have solid : ∀ c ∈ front ++ run, Text.isWhiteSpace c = false := by
      intro c member
      rcases List.mem_append.1 member with inside | inside
      · cases text with
        | none => cases inside
        | minus =>
          obtain rfl := List.mem_singleton.1 inside
          decide
      · have blank := Text.not_isBlank_of_isDigit (digits c inside)
        exact (Bool.or_eq_false_iff.1 blank).1
    obtain ⟨tail, trimmed⟩ := Text.trim_append (by simp [some?]) solid rest
    rw [← List.append_assoc, trimmed, List.append_assoc] at spells
    obtain ⟨rfl, many⟩ := length_le_of_spells text some? digits leading spells
    unfold count at short
    omega

end

section

variable {minusCounts : Bool} {s : String} {negative : Bool} {ds : List Nat}

/-- A numeral gives its number, unless it has too many digits. -/
theorem ofField_of_spells (short : ¬ BeginsLong minusCounts s.toList)
    (spells : Spells (Text.trim Text.isWhiteSpace s.toList) negative ds) :
    ofField minusCounts s =
      if count minusCounts negative ds ≤ Decimal.digitLimit then .ok (signed negative (Decimal.valueOf ds))
      else .error .malformed := by
  obtain ⟨es, read, leading, same⟩ := fieldDigits?_of_spells spells
  have counted : count minusCounts negative es = count minusCounts negative ds := by rw [count, count, same]
  rw [ofField_eq, if_neg (fun starts => short (startsTooLong_iff.1 starts)), read]
  simp only [leading, Bool.true_and, decide_eq_true_eq, counted, valueOf_eq_of_significant same]

theorem ofField_eq_tooLong_iff : ofField minusCounts s = .error .tooLong ↔ BeginsLong minusCounts s.toList := by
  rw [ofField_eq, ← startsTooLong_iff]
  constructor
  · intro refused
    split at refused
    · assumption
    · split at refused
      · cases refused
      · split at refused <;> cases refused
  · intro starts
    rw [if_pos starts]

theorem ofField_eq_ok_iff {n : Int} :
    ofField minusCounts s = .ok n ↔
      ∃ negative ds, Spells (Text.trim Text.isWhiteSpace s.toList) negative ds ∧
        count minusCounts negative ds ≤ Decimal.digitLimit ∧ n = signed negative (Decimal.valueOf ds) := by
  constructor
  · intro read
    rw [ofField_eq] at read
    split at read
    · cases read
    · split at read
      · cases read
      · next found =>
        split at read
        · next short =>
          rw [Bool.and_eq_true, decide_eq_true_eq] at short
          cases read
          exact ⟨_, _, spells_of_fieldDigits? found short.1, short.2, rfl⟩
        · cases read
  · rintro ⟨negative, ds, spells, short, rfl⟩
    rw [ofField_of_spells (not_beginsLong_of_spells spells short) spells, if_pos short]

theorem ofField_eq_malformed_iff :
    ofField minusCounts s = .error .malformed ↔ ¬ BeginsLong minusCounts s.toList ∧
      ∀ negative ds, Spells (Text.trim Text.isWhiteSpace s.toList) negative ds →
        Decimal.digitLimit < count minusCounts negative ds := by
  constructor
  · intro refused
    have begins : ¬ BeginsLong minusCounts s.toList := fun long => by
      rw [ofField_eq_tooLong_iff.2 long] at refused
      cases refused
    refine ⟨begins, fun negative ds spells => Nat.lt_of_not_le fun short => ?_⟩
    rw [ofField_of_spells begins spells, if_pos short] at refused
    cases refused
  · rintro ⟨begins, long⟩
    cases read : ofField minusCounts s with
    | ok n =>
      obtain ⟨negative, ds, spells, short, -⟩ := ofField_eq_ok_iff.1 read
      exact absurd short (Nat.not_le.2 (long negative ds spells))
    | error e =>
      cases e with
      | malformed => rfl
      | tooLong => exact absurd (ofField_eq_tooLong_iff.1 read) begins

end

end ServiceLease.Numeral
