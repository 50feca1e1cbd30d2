import ServiceLease.Json.Printer
import ServiceLease.Json.Reader
import ServiceLease.Proofs.Failure
import ServiceLease.Proofs.Number.Limit

/-! What is read from JSON can be written. Every integer literal that is let through has a
text, and so has every value that is put together from such literals. -/
namespace ServiceLease.Json

theorem membersWritable_iff (ms : Members) :
    membersWritable ms = true ↔ ∀ m ∈ ms, writable m.2 = true := by
  induction ms with
  | nil => simp [membersWritable]
  | cons m rest ih => simp [membersWritable, ih]

theorem itemsWritable_iff (vs : List Value) : itemsWritable vs = true ↔ ∀ v ∈ vs, writable v = true := by
  induction vs with
  | nil => simp [itemsWritable]
  | cons v rest ih => simp [itemsWritable, ih]

theorem membersWritable_put {known : Members} {v : Value} (held : membersWritable known = true)
    (new : writable v = true) (name : String) : membersWritable (known.put name v) = true := by
  induction known with
  | nil => simpa [Members.put, membersWritable] using new
  | cons m rest ih =>
    simp only [membersWritable, Bool.and_eq_true] at held
    rw [Members.put]
    split
    · simp [membersWritable, new, held.2]
    · simp [membersWritable, held.1, ih held.2]

theorem writable_of_lookup {ms : Members} {name : String} {v : Value} (held : membersWritable ms = true)
    (found : ms.lookup name = some v) : writable v = true := by
  obtain ⟨before, after, rfl, -⟩ := List.lookup_eq_some_iff.1 found
  exact (membersWritable_iff _).1 held (name, v) (by simp)

/-! Numbers. -/

theorem isDigit_of_whole? {s ds rest : List Char} (read : whole? s = some (ds, rest)) :
    ∀ c ∈ ds, c.isDigit = true := by
  unfold whole? at read
  split at read
  · cases read
    exact List.forall_mem_singleton.2 rfl
  · next c more _ =>
    split at read
    · next digit =>
      cases read
      intro d member
      rcases List.mem_cons.1 member with rfl | later
      · exact digit
      · exact List.all_eq_true.1 List.all_takeWhile d later
    · cases read
  · cases read

theorem fits_digitsOf {ds : List Char} (digits : ∀ c ∈ ds, c.isDigit = true)
    (short : ds.length ≤ Decimal.digitLimit) (negative : Bool) :
    Decimal.fits (if negative then -(digitsOf ds : Int) else digitsOf ds) = true := by
  have small : ∀ d ∈ ds.map (fun c => c.toNat - 0x30), d < 10 := by
    intro d member
    obtain ⟨c, inside, rfl⟩ := List.mem_map.1 member
    have bounds := Char.isDigit_iff_toNat.1 (digits c inside)
    simp at bounds
    omega
  have fewer : ((ds.map fun c => c.toNat - 0x30).dropWhile (· == 0)).length ≤ Decimal.digitLimit :=
    Nat.le_trans (List.dropWhile_sublist _).length_le (by simpa using short)
  have written := Decimal.fits_valueOf small fewer negative
  rwa [Decimal.valueOf_map] at written

theorem writable_of_unsigned {negative : Bool} {s rest : List Char} {v : Value}
    (read : unsigned negative s = some (.ok v, rest)) : writable v = true := by
  obtain ⟨⟨ds, left⟩, whole, made⟩ := Option.map_eq_some_iff.1 read
  simp only at made
  split at made
  · cases made
    rfl
  · split at made
    · split at made
      · next short =>
        cases made
        exact fits_digitsOf (isDigit_of_whole? whole) short negative
      · cases made
    · cases made
      rfl

theorem writable_of_number {s rest left : List Char} {negative : Bool} {v : Value}
    (read : atom.number s negative rest = .ok (v, left)) : writable v = true := by
  unfold atom.number at read
  split at read
  · cases read
  · cases read
  · next number =>
    cases read
    exact writable_of_unsigned number

theorem writable_of_constant {levels : Nat} {x : Binary64} {rest left : List Char} {v : Value}
    (read : constant levels x rest = .ok (v, left)) : writable v = true := by
  unfold constant at read
  split at read
  · cases read
  · cases read
    rfl

theorem writable_of_atom {levels : Nat} {s rest : List Char} {v : Value} (read : atom levels s = .ok (v, rest)) :
    writable v = true := by
  unfold atom at read
  split at read
  case h_1 | h_2 | h_3 =>
    cases read
    rfl
  case h_4 | h_5 | h_6 => exact writable_of_constant read
  case h_7 | h_8 => exact writable_of_number read

theorem writable_ofCodes (codes : List Nat) : writable (.ofCodes codes) = true := by
  unfold Value.ofCodes
  split <;> rfl

/-! Values. The three readers call each other with less fuel, and so do the proofs. -/

mutual

theorem writable_of_value : ∀ (levels fuel : Nat) {s rest : List Char} {v : Value},
    value levels fuel s = .ok (v, rest) → writable v = true
  | _, 0, _, _, _, read => by cases read
  | levels, fuel + 1, s, rest, v, read => by
    unfold value at read
    split at read
    · split at read
      · cases read
      · cases read
        exact writable_ofCodes _
    · split at read
      · cases read
      · split at read
        · cases read
          rfl
        · split at read
          · cases read
          · next inside =>
            cases read
            exact itemsWritable_of_items _ fuel inside
    · split at read
      · cases read
      · split at read
        · cases read
          rfl
        · split at read
          · cases read
          · next inside =>
            cases read
            exact membersWritable_of_members _ fuel rfl inside
    · exact writable_of_atom read

theorem itemsWritable_of_items : ∀ (levels fuel : Nat) {s rest : List Char} {vs : List Value},
    items levels fuel s = .ok (vs, rest) → itemsWritable vs = true
  | _, 0, _, _, _, read => by cases read
  | levels, fuel + 1, s, rest, vs, read => by
    unfold items at read
    split at read
    · cases read
    · next first =>
      have head := writable_of_value levels fuel first
      split at read
      · cases read
        simp [itemsWritable, head]
      · split at read
        · cases read
        · next others =>
          cases read
          simp [itemsWritable, head, itemsWritable_of_items levels fuel others]
      · cases read

theorem membersWritable_of_members : ∀ (levels fuel : Nat) {known ms : Members} {s rest : List Char},
    membersWritable known = true → members levels fuel known s = .ok (ms, rest) → membersWritable ms = true
  | _, 0, _, _, _, _, _, read => by cases read
  | levels, fuel + 1, known, ms, s, rest, held, read => by
    unfold members at read
    split at read
    · split at read
      · cases read
      · split at read
        · split at read
          · cases read
          · next inside =>
            have kept := membersWritable_put held (writable_of_value levels fuel inside)
            split at read
            · cases read
              exact kept _
            · exact membersWritable_of_members levels fuel (kept _) read
            · cases read
        · cases read
    · cases read

end

theorem writable_of_readChars {levels : Nat} {s : List Char} {v : Value} (parsed : readChars levels s = .ok v) :
    writable v = true := by
  unfold readChars at parsed
  split at parsed
  · cases parsed
  · split at parsed
    · cases parsed
    · next inside =>
      split at parsed
      · cases parsed
        exact writable_of_value levels _ inside
      · cases parsed

/-- Every integer in a value that was read has a text. -/
theorem writable_of_readIn {levels : Nat} {text : String} {v : Value} (parsed : readIn levels text = .ok v) :
    writable v = true :=
  writable_of_readChars (mapError_eq_ok_iff.1 parsed)

end ServiceLease.Json
