import ServiceLease.Proofs.Xml.Written
import ServiceLease.Xml.StartTag

/-! Tags as they are written. A scanner that meets the text of a name, of an attribute or
of a whole tag takes exactly that text. -/
namespace ServiceLease.Xml

theorem ne_of_isNameStart {c d : Char} (start : isNameStart c = true) (off : isNameStart d = false) : c ≠ d := by
  rintro rfl
  exact absurd (start.symm.trans off) (by decide)

namespace Scan

variable {s : String} {c : Char} {k : List Char}

theorem name_written (plain : plainName s = true) (stop : isNameChar c = false) :
    name (s.toList ++ c :: k) = .ok (s, c :: k) := by
  obtain ⟨d, rest, letters, start, others⟩ := (plainName_iff s).1 plain
  rw [List.all_eq_true] at others
  have whole : String.ofList (d :: rest) = s := by rw [← letters, String.ofList_toList]
  rw [letters, List.cons_append, name]
  simp [start, List.takeWhile_append_of_pos others, List.dropWhile_append_of_pos others, stop, whole]

theorem qualified_written (plain : plainName s = true) (stop : isNameChar c = false) (single : c ≠ ':') :
    qualified (s.toList ++ c :: k) = .ok (⟨none, s⟩, c :: k) := by
  rw [qualified, name_written plain stop]
  split
  · next failed => simp at failed
  · next same => simp at same; exact absurd same.2.1 single
  · next same => simp at same; simp [same]

end Scan

/-! Escapes. -/

def Reference.Names (r : Reference) (c : Char) : Prop :=
  r = .character (some c) ∨ ∃ name, r = .entity name ∧ predefined? name = some c

def valueChar (c : Char) : Bool := isChar c && c != '"' && c != '<' && c != '&'

/-- `cs` after an ampersand is a reference that stands for `c`. -/
structure Escapes (cs : List Char) (c : Char) : Prop where
  chars : cs.all valueChar = true
  complete : ∃ r : Reference, r.Names c ∧ ∀ s, Scan.reference (cs ++ s) = .ok (r, s)

theorem escapes_amp : Escapes "amp;".toList '&' := ⟨by decide, .entity "amp", .inr ⟨_, rfl, rfl⟩, fun _ => rfl⟩

theorem escapes_lt : Escapes "lt;".toList '<' := ⟨by decide, .entity "lt", .inr ⟨_, rfl, rfl⟩, fun _ => rfl⟩

theorem escapes_gt : Escapes "gt;".toList '>' := ⟨by decide, .entity "gt", .inr ⟨_, rfl, rfl⟩, fun _ => rfl⟩

theorem escapes_quot : Escapes "quot;".toList '"' :=
  ⟨by decide, .entity "quot", .inr ⟨_, rfl, rfl⟩, fun _ => rfl⟩

theorem escapes_return : Escapes "#13;".toList '\r' :=
  ⟨by decide, .character (some '\r'), .inl rfl, fun _ => rfl⟩

theorem escapes_feed : Escapes "#10;".toList '\n' :=
  ⟨by decide, .character (some '\n'), .inl rfl, fun _ => rfl⟩

theorem escapes_tab : Escapes "#09;".toList '\t' :=
  ⟨by decide, .character (some '\t'), .inl rfl, fun _ => rfl⟩

/-- In a text a character is escaped or is none of markup. -/
theorem writeChar_cases (c : Char) :
    (∃ cs, writeChar c = '&' :: cs ∧ Escapes cs c) ∨ (writeChar c = [c] ∧ c ≠ '&' ∧ c ≠ '<' ∧ c ≠ '>') := by
  by_cases amp : c = '&'
  · subst amp; exact .inl ⟨_, rfl, escapes_amp⟩
  by_cases lt : c = '<'
  · subst lt; exact .inl ⟨_, rfl, escapes_lt⟩
  by_cases gt : c = '>'
  · subst gt; exact .inl ⟨_, rfl, escapes_gt⟩
  exact .inr ⟨by simp [writeChar, amp, lt, gt], amp, lt, gt⟩

/-- In an attribute value the quote and every blank but the space are escaped as well. -/
theorem writeAttributeChar_cases (c : Char) :
    (∃ cs, writeAttributeChar c = '&' :: cs ∧ Escapes cs c) ∨
    (writeAttributeChar c = [c] ∧ (c ≠ '&' ∧ c ≠ '<' ∧ c ≠ '"') ∧ c ≠ '\r' ∧ c ≠ '\n' ∧ c ≠ '\t') := by
  by_cases quot : c = '"'
  · subst quot; exact .inl ⟨_, rfl, escapes_quot⟩
  by_cases ret : c = '\r'
  · subst ret; exact .inl ⟨_, rfl, escapes_return⟩
  by_cases feed : c = '\n'
  · subst feed; exact .inl ⟨_, rfl, escapes_feed⟩
  by_cases tab : c = '\t'
  · subst tab; exact .inl ⟨_, rfl, escapes_tab⟩
  have same : writeAttributeChar c = writeChar c := by simp [writeAttributeChar, quot, ret, feed, tab]
  rcases writeChar_cases c with escaped | ⟨plain, amp, lt, -⟩
  · exact .inl (same ▸ escaped)
  · exact .inr ⟨same ▸ plain, ⟨amp, lt, quot⟩, ret, feed, tab⟩

def Attribute.raw (a : Attribute) : Written × List Char :=
  (⟨none, a.name.part⟩, a.value.toList.flatMap writeAttributeChar)

def RawAttribute.shows (r : RawAttribute) : Written × List Char := (r.name, r.value)

namespace Scan

/-! Attribute values. -/

theorem attributeValue_chars {cs : List Char} (known : cs.all valueChar = true) (s : List Char) :
    attributeValue '"' (cs ++ s) = value (cs ++ ·) (attributeValue '"' s) := by
  induction cs with
  | nil => rw [List.nil_append]; cases attributeValue '"' s <;> rfl
  | cons c cs ih =>
    simp only [List.all_cons, Bool.and_eq_true] at known
    obtain ⟨here, others⟩ := known
    simp only [valueChar, Bool.and_eq_true, bne_iff_ne] at here
    rw [List.cons_append, attributeValue, ih others]
    cases attributeValue '"' s <;> simp [here, value]

/-- A reference in a value is passed over as the characters it is made of. -/
theorem attributeValue_escape {cs : List Char} {c : Char} (escape : Escapes cs c) (s : List Char) :
    attributeValue '"' ('&' :: cs ++ s) = value ('&' :: cs ++ ·) (attributeValue '"' s) := by
  obtain ⟨known, r, -, complete⟩ := escape
  have legal : isChar '&' = true := by decide
  rw [List.cons_append, attributeValue, complete, attributeValue_chars known]
  cases attributeValue '"' s <;> simp [value, legal, Except.map]

theorem attributeValue_written {cs : List Char} (legal : cs.all isChar = true) (k : List Char) :
    attributeValue '"' (cs.flatMap writeAttributeChar ++ '"' :: k) =
      .ok (cs.flatMap writeAttributeChar, '"' :: k) := by
  induction cs with
  | nil => rfl
  | cons c cs ih =>
    simp only [List.all_cons, Bool.and_eq_true] at legal
    rw [List.flatMap_cons, List.append_assoc]
    rcases writeAttributeChar_cases c with ⟨escape, written, known⟩ | ⟨written, ⟨amp, lt, quot⟩, -⟩
    · rw [written, attributeValue_escape known, ih legal.2]; rfl
    · have known : [c].all valueChar = true := by simp [valueChar, legal.1, amp, lt, quot]
      rw [written, attributeValue_chars known, ih legal.2]; rfl

/-! Whole tags. -/

theorem not_blank_of_isNameStart {c : Char} (start : isNameStart c = true) : isBlank c = false := by
  have space : c ≠ ' ' := ne_of_isNameStart start (by decide)
  have tab : c ≠ '\t' := ne_of_isNameStart start (by decide)
  have ret : c ≠ '\r' := ne_of_isNameStart start (by decide)
  have feed : c ≠ '\n' := ne_of_isNameStart start (by decide)
  simp [isBlank, space, tab, ret, feed]

theorem assignment_written {a : Attribute} (plain : a.plain = true) (k : List Char) :
    ∃ r : RawAttribute, r.shows = a.raw ∧ assignment (a.name.part.toList ++ '=' :: '"' ::
      (a.value.toList.flatMap writeAttributeChar ++ '"' :: k)) = .ok (r, k) := by
  obtain ⟨-, named, -, legal⟩ := a.plain_iff.1 plain
  have sign (s : List Char) : equals ('=' :: '"' :: s) = .ok ('"', s) := rfl
  rw [assignment, qualified_written named (by decide) (by decide)]
  simp only [sign, attributeValue_written legal]
  exact ⟨_, rfl, rfl⟩

theorem attributes_written {as : List Attribute} (plain : as.all Attribute.plain = true) {tail left : List Char}
    (closes : attributes tail = .ok ([], left)) :
    ∃ raws : List RawAttribute, raws.map RawAttribute.shows = as.map Attribute.raw ∧
      attributes (as.flatMap writeAttribute ++ tail) = .ok (raws, left) := by
  induction as with
  | nil => exact ⟨[], rfl, closes⟩
  | cons a as ih =>
    simp only [List.all_cons, Bool.and_eq_true] at plain
    obtain ⟨raws, shown, read⟩ := ih plain.2
    obtain ⟨r, shows, assigned⟩ := assignment_written plain.1 (as.flatMap writeAttribute ++ tail)
    obtain ⟨d, name, letters, start, -⟩ := (plainName_iff _).1 (a.plain_iff.1 plain.1).2.1
    refine ⟨r :: raws, by simp [shows, shown], ?_⟩
    have text : (a :: as).flatMap writeAttribute ++ tail = ' ' :: (a.name.part.toList ++ '=' :: '"' ::
        (a.value.toList.flatMap writeAttributeChar ++ '"' :: (as.flatMap writeAttribute ++ tail))) := by
      simp [writeAttribute]
    rw [text]
    rw [letters, List.cons_append] at assigned ⊢
    have skip (s : List Char) : skipBlank (d :: s) = d :: s := by
      simp [skipBlank, not_blank_of_isNameStart start]
    have bracket : d ≠ '>' := ne_of_isNameStart start (by decide)
    have slash : d ≠ '/' := ne_of_isNameStart start (by decide)
    rw [attributes]
    rw [if_neg (by decide), if_neg (by decide)]
    split
    · next empty => simp [skip] at empty
    · next closed => rw [skip] at closed; exact absurd (List.cons.inj closed).1 bracket
    · next closed => rw [skip] at closed; exact absurd (List.cons.inj closed).1 slash
    split
    · next failed => simp [skip, assigned] at failed
    · next r' after same =>
      rw [skip, assigned] at same
      cases same
      rw [read]

/-- A start tag up to what ends it: an angle bracket, or a blank and a slash. -/
theorem startTag_written {name : String} {as : List Attribute} (named : plainName name = true)
    (plain : as.all Attribute.plain = true) {tail left after : List Char} {closed : Bool}
    (stops : tail.head? = some ' ' ∨ tail.head? = some '>') (closes : attributes tail = .ok ([], left))
    (ends : tagEnd left = .ok (closed, after)) :
    ∃ raws : List RawAttribute, raws.map RawAttribute.shows = as.map Attribute.raw ∧
      startTag (name.toList ++ as.flatMap writeAttribute ++ tail) = .ok (⟨⟨none, name⟩, raws, closed⟩, after) := by
  obtain ⟨raws, shown, read⟩ := attributes_written plain closes
  refine ⟨raws, shown, ?_⟩
  obtain ⟨c, k, text, stop⟩ : ∃ c k, as.flatMap writeAttribute ++ tail = c :: k ∧ (c = ' ' ∨ c = '>') := by
    cases as with
    | nil =>
      cases tail with
      | nil => simp at stops
      | cons c k => exact ⟨c, k, rfl, by simpa using stops⟩
    | cons a as => exact ⟨' ', _, rfl, .inl rfl⟩
  have fits : isNameChar c = false ∧ c ≠ ':' := by
    rcases stop with rfl | rfl <;> decide
  rw [text] at read
  rw [List.append_assoc, text, startTag, qualified_written named fits.1 fits.2]
  simp only [read, ends]

theorem endTag_written {name : String} (named : plainName name = true) (k : List Char) :
    endTag (name.toList ++ '>' :: k) = .ok (name, k) := by
  obtain ⟨c, rest, letters, start, others⟩ := (plainName_iff name).1 named
  have inName : ∀ d ∈ rest, (isNameChar d || d == ':') = true := by
    intro d member
    rw [List.all_eq_true.1 others d member, Bool.true_or]
  have stop : (isNameChar '>' || '>' == ':') = false := by decide
  have whole : String.ofList (c :: rest) = name := by rw [← letters, String.ofList_toList]
  have bracket : skipBlank ('>' :: k) = '>' :: k := rfl
  rw [letters, List.cons_append, endTag, if_pos start]
  simp only [List.takeWhile_append_of_pos inName, List.dropWhile_append_of_pos inName, List.takeWhile_cons,
    List.dropWhile_cons, stop, Bool.false_eq_true, if_false, List.append_nil, bracket, whole]

end Scan

end ServiceLease.Xml
