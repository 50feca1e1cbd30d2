import ServiceLease.Proofs.Xml.Content
import ServiceLease.Xml.Document

/-! Documents as they are written. A document is read back, with the ends of its lines
unified, if its texts are of characters that may occur, and is refused otherwise. -/
namespace ServiceLease.Xml

/-- Among the ASCII characters those that begin a name also begin a root. -/
theorem letter_of_isNameStart {c : Char} (start : isNameStart c = true) :
    (Prolog.isLetter c || decide (c.toNat ≥ 0x80)) = true := by
  by_cases ascii : c.toNat < 0x80
  · have table : ∀ n < 0x80, isNameStart (Char.ofNat n) = true → Prolog.isLetter (Char.ofNat n) = true := by
      decide +kernel
    have letter := table c.toNat ascii
    rw [Char.ofNat_toNat] at letter
    rw [letter start, Bool.true_or]
  · rw [decide_eq_true (Nat.not_lt.1 ascii), Bool.or_true]

theorem Source.close_whole (s : List Char) (t : Lexed τ) : Source.close ⟨s, false⟩ t = t := by
  obtain ⟨lexemes, ending⟩ := t
  cases ending <;> rfl

theorem readDeclaration_write (s : List Char) :
    readDeclaration (declaration ++ s) = .ok (false, '\n' :: s) := by
  have instruction : Scan.instruction ("xml version='1.0' encoding='utf-8'?>".toList ++ '\n' :: s) =
      .ok (some " version='1.0' encoding='utf-8'".toList, '\n' :: s) := rfl
  have standalone : Declaration.read " version='1.0' encoding='utf-8'".toList = .ok false := rfl
  have text : declaration ++ s = '<' :: '?' :: ("xml version='1.0' encoding='utf-8'?>".toList ++ '\n' :: s) := rfl
  simp only [text, readDeclaration, instruction, standalone]

/-- Nothing is declared before the root. -/
theorem prolog_write {e : Element} (named : plainName e.name.part = true) (allowed : Nat) :
    let head := Prolog.lexemes ('\n' :: writeNode e.node)
    Prolog.read head.ending ⟨.start, .empty false, allowed, 0⟩ head.lexemes =
      .ok (.empty false, 0, writeNode e.node) := by
  obtain ⟨d, rest, letters, start, -⟩ := (plainName_iff _).1 named
  obtain ⟨r, written⟩ := writeNode_head e.name e.attributes e.content
  have root : Prolog.token '<' (d :: (rest ++ r)) = .ok (.root, d :: (rest ++ r)) := by
    have bang : d ≠ '!' := ne_of_isNameStart start (by decide)
    have question : d ≠ '?' := ne_of_isNameStart start (by decide)
    have letter := letter_of_isNameStart start
    simp only [Prolog.token, beq_self_eq_true, if_true]
    rw [Prolog.markup]
    · rw [if_pos letter]
    · exact bang
    · exact question
  rw [Element.node, written, letters, List.cons_append]
  have lexed : Prolog.lexemes ('\n' :: '<' :: d :: (rest ++ r)) =
      .cons ⟨.root, '<' :: d :: (rest ++ r), d :: (rest ++ r)⟩ (.done (d :: (rest ++ r)).length) := by
    rw [Prolog.lexemes, if_pos (by decide), Prolog.lexemes, if_neg (by decide)]
    split
    · next failed => simp [root] at failed
    · next same => rw [root] at same; cases same; rfl
    · next other same => rw [root] at same; cases same; exact absurd rfl other
  rw [lexed]
  rfl

/-- What stands before the root of a written document changes nothing. -/
theorem readSource_write {e : Element} (named : plainName e.name.part = true) : ∃ c : Context, c.dtd.rules = [] ∧
    readSource ⟨write e, false⟩ = (do
      let (root, rest) ← readFrom c (.start .initial 0) (writeNode e.node)
      let tail := Prolog.lexemes rest
      Prolog.readRest tail.ending tail.lexemes
      return root) := by
  refine ⟨⟨.empty false, allowance (Scan.octets (write e)), []⟩, rfl, ?_⟩
  have head := prolog_write named (allowance (Scan.octets (write e)))
  rw [readSource, write, readDeclaration_write]
  simp only [Source.close_whole, bind, Except.bind]
  rw [write] at head
  rw [head]
  rfl

theorem read_render_eq (e : Element) :
    read (render e) = (readSource ⟨write e, false⟩).mapError (.ofFault (write e)) := by
  have source : Source.ofChars (write e) = ⟨write e, false⟩ := rfl
  rw [read, render, String.toList_ofList, source]
  rfl

/-- A document of characters that may occur is read as it was written. -/
theorem read_render {e : Element} (plain : e.plain = true) (legal : e.legal = true) :
    read (render e) = .ok e.unified := by
  obtain ⟨tag, inner⟩ := (Node.plain_element_iff _ _ _).1 plain
  obtain ⟨c, ruleless, source⟩ := readSource_write tag.named
  have content := contentRead_of_plain ruleless e.content inner legal
  have root := nodeRead_element ruleless tag content (.start .initial 0) [] rfl
  rw [List.append_nil] at root
  have tail : Prolog.lexemes [] = .done 0 := by rw [Prolog.lexemes]
  rw [read_render_eq, source, Element.node, root]
  simp only [readOn, Progress.start, bind, Except.bind, tail]
  rfl

/-- A document with any other character is refused. -/
theorem read_render_illegal {e : Element} (plain : e.plain = true) (illegal : e.legal = false) :
    ∃ error, read (render e) = .error error := by
  obtain ⟨tag, -⟩ := (Node.plain_element_iff _ _ _).1 plain
  obtain ⟨c, ruleless, source⟩ := readSource_write tag.named
  obtain ⟨fault, root⟩ := unreadable_of_illegal ruleless e.node plain illegal (.start .initial 0) [] rfl
  rw [List.append_nil] at root
  rw [read_render_eq, source, root]
  exact ⟨_, rfl⟩

end ServiceLease.Xml
