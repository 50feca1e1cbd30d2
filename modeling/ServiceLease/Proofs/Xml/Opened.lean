import ServiceLease.Proofs.Xml.Tags

/-! What a written tag opens, in a document whose declarations say nothing about
attributes: the element as it was written, with the same values. -/
namespace ServiceLease.Xml

namespace Value

theorem expand_predefined (tokenized : Bool) (depth : Nat) (c : Context) {name : String} {p : Char}
    (known : predefined? name = some p) (f : Filling) :
    expand tokenized depth c name f = .ok (push tokenized p f) := by
  rw [expand, known]

theorem fill_character {ex : String → Filling → Except Trouble Filling} {tokenized : Bool} {s after : List Char}
    {c : Char} (read : Scan.reference s = .ok (.character (some c), after)) (f : Filling) :
    fill ex tokenized ('&' :: s) f = fill ex tokenized after (push tokenized c f) := by
  rw [fill]
  split <;> simp_all

theorem fill_entity {ex : String → Filling → Except Trouble Filling} {tokenized : Bool} {s after : List Char}
    {name : String} (read : Scan.reference s = .ok (.entity name, after)) {f g : Filling}
    (expanded : ex name f = .ok g) : fill ex tokenized ('&' :: s) f = fill ex tokenized after g := by
  rw [fill]
  split <;> simp_all

theorem fill_escape {ex : String → Filling → Except Trouble Filling}
    (predefined : ∀ name p f, predefined? name = some p → ex name f = .ok (push false p f))
    {cs : List Char} {c : Char} (escape : Escapes cs c) (s : List Char) (f : Filling) :
    fill ex false ('&' :: cs ++ s) f = fill ex false s (push false c f) := by
  obtain ⟨-, r, names, complete⟩ := escape
  rcases names with rfl | ⟨name, rfl, known⟩
  · exact fill_character (complete s) f
  · exact fill_entity (complete s) (predefined name c f known)

theorem fill_literal (ex : String → Filling → Except Trouble Filling) {c : Char} (amp : c ≠ '&') (lt : c ≠ '<')
    (spaced : c ≠ '\r' ∧ c ≠ '\n' ∧ c ≠ '\t') (s : List Char) (f : Filling) :
    fill ex false (c :: s) f = fill ex false s (push false c f) := by
  have same : (if isBlank c then ' ' else c) = c := by
    by_cases space : c = ' '
    · rw [space]; rfl
    · simp [isBlank, space, spaced]
  rw [fill]
  · rw [same]
  · exact amp
  · exact lt
  · exact fun _ ret => absurd ret spaced.1

/-- The text of a value is a raw one that stands for it. -/
theorem fill_written {ex : String → Filling → Except Trouble Filling}
    (predefined : ∀ name p f, predefined? name = some p → ex name f = .ok (push false p f))
    (cs : List Char) (f : Filling) :
    fill ex false (cs.flatMap writeAttributeChar) f = .ok { f with chars := cs.reverse ++ f.chars } := by
  induction cs generalizing f with
  | nil => rw [List.flatMap_nil, fill]; rfl
  | cons c cs ih =>
    have push_eq : push false c f = { f with chars := c :: f.chars } := rfl
    rw [List.flatMap_cons]
    rcases writeAttributeChar_cases c with ⟨escape, written, known⟩ | ⟨written, ⟨amp, lt, -⟩, spaced⟩
    · rw [written, fill_escape predefined known, ih, push_eq]
      simp
    · rw [written, List.singleton_append, fill_literal ex amp lt spaced, ih, push_eq]
      simp

theorem resolve_written (c : Context) (s : List Char) (spent : Nat) :
    resolve c false (s.flatMap writeAttributeChar) spent = .ok (s, spent) := by
  rw [resolve, fill_written fun name p f known => expand_predefined false c.depth c known f]
  simp

end Value

def Attribute.written (a : Attribute) : Written × String := (⟨none, a.name.part⟩, a.value)

theorem Attribute.declares_of_plain {a : Attribute} (plain : a.plain = true) :
    (⟨none, a.name.part⟩ : Written).declares? = none := by
  have other := (a.plain_iff.1 plain).2.2.1
  simp [Written.declares?, Written.text, other]

section

variable {c : Context} (ruleless : c.dtd.rules = [])

include ruleless

/-- Attributes that are plain bind no namespace; all of them are kept. -/
theorem Binding.addWritten_written (element : String) (start : List Char) {as : List Attribute}
    (plain : as.all Attribute.plain = true) (once : (as.map (·.name.part)).Nodup) {seen : List String}
    (fresh : ∀ a ∈ as, a.name.part ∉ seen) {raws : List RawAttribute}
    (shown : raws.map RawAttribute.shows = as.map Attribute.raw) (b : Binding) :
    addWritten c element start seen raws b = .ok { b with values := b.values ++ as.map Attribute.written } := by
  induction as generalizing seen raws b with
  | nil =>
    rw [List.map_nil, List.map_eq_nil_iff] at shown
    rw [shown, addWritten, List.map_nil, List.append_nil]
  | cons a as ih =>
    obtain ⟨r, raws, rfl, shows, shown⟩ := List.map_eq_cons_iff.1 shown
    simp only [List.all_cons, Bool.and_eq_true] at plain
    rw [List.map_cons, List.nodup_cons] at once
    obtain ⟨name, value⟩ := Prod.mk.inj (shows : (r.name, r.value) = _)
    have text : r.name.text = a.name.part := by rw [name]; rfl
    have new : seen.contains r.name.text = false := by
      rw [text, Bool.eq_false_iff, ne_eq, List.contains_iff_mem]
      exact fresh a (by simp)
    have literal : c.dtd.tokenizes element r.name = false := by
      simp [Dtd.tokenizes, Dtd.rulesOf, ruleless]
    have kept (spent : Nat) : add r.name (String.ofList a.value.toList) { b with spent } =
        .ok { b with spent, values := b.values ++ [a.written] } := by
      rw [add, name, Attribute.declares_of_plain plain.1, String.ofList_toList]
      rfl
    have later : ∀ other ∈ as, other.name.part ∉ r.name.text :: seen := by
      intro other member
      rw [text, List.mem_cons, not_or]
      refine ⟨fun same => once.1 ?_, fresh other (by simp [member])⟩
      exact same ▸ List.mem_map_of_mem member
    rw [addWritten, new, literal, value, Value.resolve_written]
    simp only [Bool.false_eq_true, if_false, kept]
    rw [ih plain.2 once.2 later shown]
    simp

theorem Binding.addDefaults_none (given : List String) (element : String) (b : Binding) :
    addDefaults given (c.dtd.rulesOf element) b = .ok b := by
  simp [Dtd.rulesOf, ruleless, addDefaults]

end

theorem nameAttributes_written (scope : Scope) (seen : List Name) {as : List Attribute}
    (plain : as.all Attribute.plain = true) : nameAttributes scope seen (as.map Attribute.written) = .ok as := by
  induction as with
  | nil => rfl
  | cons a as ih =>
    simp only [List.all_cons, Bool.and_eq_true] at plain
    have name := (a.plain_iff.1 plain.1).1
    have whole : (⟨.plain a.name.part, a.value⟩ : Attribute) = a := by rw [← name]
    rw [List.map_cons, nameAttributes]
    simp only [Attribute.written, Written.attributeName?, whole, Option.isSome_none, Bool.false_and,
      Bool.false_eq_true, if_false, ih plain.2]
    rfl

/-- An element whose tag was written is opened as it was, in no namespace. -/
theorem Opening.ofTag_written {c : Context} (ruleless : c.dtd.rules = []) (start : List Char) {scope : Scope}
    (unbound : scope.space? none = none) (spent : Nat) (name : String) {as : List Attribute}
    (plain : plainAttributes as = true) {raws : List RawAttribute}
    (shown : raws.map RawAttribute.shows = as.map Attribute.raw) (closed : Bool) :
    Opening.ofTag c start scope spent ⟨⟨none, name⟩, raws, closed⟩ =
      .ok ⟨name, .plain name, as, scope, spent⟩ := by
  obtain ⟨each, once⟩ := (plainAttributes_iff as).1 plain
  have given := Binding.addWritten_written ruleless name start each once (fun _ _ => List.not_mem_nil) shown
    ⟨scope, spent, []⟩
  have text : (⟨none, name⟩ : Written).text = name := rfl
  have full : (⟨none, name⟩ : Written).elementName? scope = some (.plain name) := by
    simp [Written.elementName?, unbound, Name.plain]
  have lifted {α : Type} (f : Cause → Fault) (a : α) : (Except.ok a).mapError f = .ok a := rfl
  simp only [Opening.ofTag, text, given, Binding.addDefaults_none ruleless, List.nil_append, lifted, bind,
    Except.bind, nameAttributes_written scope [] each, full]
  rfl

end ServiceLease.Xml
