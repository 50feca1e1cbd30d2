import ServiceLease.Proofs.Xml.Opened
import ServiceLease.Xml.Tree

/-! Content as it is written. Reading it adds its nodes to those that were read before, up
to the first character that may not occur in a document, where reading fails. -/
namespace ServiceLease.Xml

theorem ne_of_illegal {ch d : Char} (illegal : isChar ch = false) (legal : isChar d = true) : ch ≠ d := by
  rintro rfl
  exact absurd (legal.symm.trans illegal) (by decide)

/-! One token at a time. -/

namespace Content

theorem lexemes_markup {s after : List Char} {token : Token} (read : Scan.markup s = .ok (token, after))
    (kept : token ≠ .verbatim) : lexemes ('<' :: s) = .cons ⟨token, '<' :: s, after⟩ (lexemes after) := by
  rw [lexemes]
  split
  · next failed => simp [read] at failed
  · next same => rw [read] at same; cases same; exact absurd rfl kept
  · next same => rw [read] at same; cases same; rfl

theorem lexemes_reference {s after : List Char} {r : Reference} (read : Scan.reference s = .ok (r, after)) :
    lexemes ('&' :: s) = .cons ⟨referenceToken r, '&' :: s, after⟩ (lexemes after) := by
  rw [lexemes]
  split
  · next failed => simp [read] at failed
  · next same => rw [read] at same; cases same; rfl

theorem lexemes_char {ch : Char} {s : List Char} (legal : isChar ch = true)
    (plain : ch ≠ '<' ∧ ch ≠ '&' ∧ ch ≠ '\r') (apart : ∀ r, ch = ']' → s ≠ ']' :: '>' :: r) :
    lexemes (ch :: s) = .cons ⟨.char ch, ch :: s, s⟩ (lexemes s) := by
  rw [lexemes]
  · rw [if_neg (by simp [plain]), if_pos legal]
  · exact plain.1
  · exact plain.2.1
  · exact fun r same => apart r same
  · exact fun same => absurd same plain.2.2
  · exact fun _ same => absurd same plain.2.2

theorem lexemes_return {s : List Char} (more : s ≠ []) (apart : s.head? ≠ some '\n') :
    lexemes ('\r' :: s) = .cons ⟨.char '\n', '\r' :: s, s⟩ (lexemes s) := by
  rw [lexemes]
  · rw [if_pos (by decide)]
  · decide
  · decide
  · exact fun _ same => absurd same (by decide)
  · exact fun _ => more
  · rintro r - rfl
    exact apart rfl

theorem lexemes_lineEnd (s : List Char) :
    lexemes ('\r' :: '\n' :: s) = .cons ⟨.char '\n', '\r' :: '\n' :: s, s⟩ (lexemes s) := by
  rw [lexemes]

/-- A character that may not occur ends the tokens. -/
theorem lexemes_illegal {ch : Char} (illegal : isChar ch = false) (s : List Char) :
    lexemes (ch :: s) = .stuck ⟨.invalidToken, (ch :: s).length⟩ := by
  have ret : ch ≠ '\r' := ne_of_illegal illegal (by decide)
  rw [lexemes]
  · simp [ret, illegal]
  · exact ne_of_illegal illegal (by decide)
  · exact ne_of_illegal illegal (by decide)
  · exact fun _ same => absurd same (ne_of_illegal illegal (by decide))
  · exact fun same => absurd same ret
  · exact fun _ same => absurd same ret

end Content

def readFrom (c : Context) (p : Progress) (s : List Char) : Except Fault (Element × List Char) :=
  readRoot c (Content.lexemes s).ending p (Content.lexemes s).lexemes

def readOn (c : Context) (p : Progress) (s : List Char) : Except Fault (Element × List Char) :=
  match p.frames, p.nodes with
  | [], .element name attributes content :: _ => .ok (⟨name, attributes, content⟩, s)
  | _, _ => readFrom c p s

section

variable {c : Context} {p q : Progress} {s after : List Char}

theorem readOn_inside (inside : p.frames ≠ []) : readOn c p s = readFrom c p s := by
  rw [readOn]
  cases held : p.frames with
  | nil => exact absurd held inside
  | cons => rfl

theorem readFrom_step {l : Lexeme Token} (lexed : Content.lexemes s = .cons l (Content.lexemes l.rest))
    (stepped : p.step c (Progress.expand c.depth c) l = .ok q) : readFrom c p s = readOn c q l.rest := by
  rw [readFrom, lexed, Lexed.lexemes_cons, Lexed.ending_cons, readRoot, stepped]
  rfl

/-- Reading fails where there is no token. -/
theorem readFrom_stuck {fault : Fault} (lexed : Content.lexemes s = .stuck fault) :
    readFrom c p s = .error fault := by
  rw [readFrom, lexed]
  rfl

theorem readFrom_char {ch : Char} (inside : p.frames ≠ [])
    (lexed : Content.lexemes s = .cons ⟨.char ch, s, after⟩ (Content.lexemes after)) :
    readFrom c p s = readFrom c (p.addChar ch) after := by
  have stepped : p.step c (Progress.expand c.depth c) ⟨.char ch, s, after⟩ = .ok (p.addChar ch) := rfl
  rw [readFrom_step lexed stepped]
  exact readOn_inside inside

theorem readFrom_escape {cs : List Char} {ch : Char} (inside : p.frames ≠ []) (escape : Escapes cs ch) :
    readFrom c p ('&' :: cs ++ s) = readFrom c (p.addChar ch) s := by
  obtain ⟨-, r, names, complete⟩ := escape
  have lexed := Content.lexemes_reference (complete s)
  rcases names with rfl | ⟨name, rfl, known⟩
  · exact readFrom_char inside lexed
  · have expanded : Progress.expand c.depth c name p = .ok (p.addChar ch) := by
      rw [Progress.expand, known]
    have stepped : p.step c (Progress.expand c.depth c) ⟨.reference name, '&' :: (cs ++ s), s⟩ =
        .ok (p.addChar ch) := by
      simp only [Progress.step, expanded]
      rfl
    rw [List.cons_append, readFrom_step lexed stepped]
    exact readOn_inside inside

theorem readFrom_writeChar {ch : Char} (inside : p.frames ≠ []) (legal : isChar ch = true) (ret : ch ≠ '\r')
    (apart : ∀ r, ch = ']' → s ≠ ']' :: '>' :: r) :
    readFrom c p (writeChar ch ++ s) = readFrom c (p.addChar ch) s := by
  rcases writeChar_cases ch with ⟨cs, written, escape⟩ | ⟨written, amp, lt, -⟩
  · rw [written]
    exact readFrom_escape inside escape
  · rw [written]
    exact readFrom_char inside (Content.lexemes_char legal ⟨lt, amp, ret⟩ apart)

end

/-! Content. -/

/-- A text that goes on with none of the characters that would change how those before it
are read. -/
def Opens (s : List Char) : Prop := ∃ d r, s = d :: r ∧ d ≠ '\n' ∧ d ≠ '>' ∧ d ≠ ']'

theorem writeNode_filled (name : Name) (attributes : List Attribute) {content : List Node}
    (filled : content ≠ []) : writeNode (.element name attributes content) =
      '<' :: (name.part.toList ++ attributes.flatMap writeAttribute) ++ '>' :: (writeContent content ++ '<' :: '/' :: name.part.toList ++ ['>']) := by
  rw [writeNode]
  · simp
  · exact filled

theorem writeNode_head (name : Name) (attributes : List Attribute) (content : List Node) :
    ∃ r, writeNode (.element name attributes content) = '<' :: (name.part.toList ++ r) := by
  by_cases empty : content = []
  · subst empty
    exact ⟨_, congrArg _ (List.append_assoc _ _ _)⟩
  · rw [writeNode_filled name attributes empty, List.cons_append, List.append_assoc]
    exact ⟨_, rfl⟩

/-- How written content begins: with a character of markup, with a character of its own, or
not at all. -/
theorem writeContent_cases (content : List Node) (k : List Char) :
    (∃ r, writeContent content ++ k = '<' :: r ∨ writeContent content ++ k = '&' :: r) ∨
    (∃ d rest, content = .char d :: rest ∧ d ≠ '>' ∧
      writeContent content ++ k = d :: (writeContent rest ++ k)) ∨ content = [] := by
  match content with
  | [] => exact .inr (.inr rfl)
  | .element name attributes inner :: rest =>
    obtain ⟨r, written⟩ := writeNode_head name attributes inner
    exact .inl ⟨_, .inl (by rw [writeContent, written]; rfl)⟩
  | .char d :: rest =>
    rw [writeContent, writeNode]
    rcases writeChar_cases d with ⟨cs, written, -⟩ | ⟨written, -, -, gt⟩
    · exact .inl ⟨_, .inr (by rw [written]; rfl)⟩
    · exact .inr (.inl ⟨d, rest, rfl, gt, by rw [written]; rfl⟩)

theorem writeContent_not_gt (content : List Node) {k : List Char} (opens : Opens k) :
    (writeContent content ++ k).head? ≠ some '>' := by
  rcases writeContent_cases content k with ⟨r, same | same⟩ | ⟨d, rest, -, gt, same⟩ | rfl
  · simp [same]
  · simp [same]
  · simp [same, gt]
  · obtain ⟨d, r, rfl, -, gt, -⟩ := opens
    simp [writeContent, gt]

/-- The end of a section is not met where none is written. -/
theorem writeContent_apart (content : List Node) {k : List Char} (opens : Opens k) (r : List Char) :
    writeContent content ++ k ≠ ']' :: '>' :: r := by
  intro closes
  rcases writeContent_cases content k with ⟨_, same | same⟩ | ⟨d, rest, -, -, same⟩ | rfl
  · simp [same] at closes
  · simp [same] at closes
  · rw [same] at closes
    have next := writeContent_not_gt rest opens
    rw [(List.cons.inj closes).2] at next
    exact next rfl
  · obtain ⟨d, r', rfl, -, -, bracket⟩ := opens
    exact bracket (List.cons.inj closes).1

/-- Only a line feed is written as one. -/
theorem writeContent_not_feed {content : List Node} (apart : ∀ rest, content ≠ .char '\n' :: rest)
    {k : List Char} (opens : Opens k) :
    writeContent content ++ k ≠ [] ∧ (writeContent content ++ k).head? ≠ some '\n' := by
  rcases writeContent_cases content k with ⟨r, same | same⟩ | ⟨d, rest, rfl, -, same⟩ | rfl
  · simp [same]
  · simp [same]
  · have feed : d ≠ '\n' := by
      rintro rfl
      exact apart rest rfl
    simp [same, feed]
  · obtain ⟨d, r, rfl, feed, -, -⟩ := opens
    simp [writeContent, feed]

/-! Elements. -/

def Progress.entered (p : Progress) (name : Name) (attributes : List Attribute) : Progress :=
  p.openElement ⟨name.part, name, attributes, p.scope, p.spent⟩

theorem Scan.markup_startTag {name : String} (named : plainName name = true) {s after : List Char} {tag : Tag}
    (read : startTag (name.toList ++ s) = .ok (tag, after)) :
    markup (name.toList ++ s) = .ok (.startTag tag, after) := by
  obtain ⟨d, rest, letters, start, -⟩ := (plainName_iff name).1 named
  have other {e : Char} (off : isNameStart e = false) : d ≠ e := ne_of_isNameStart start off
  rw [letters, List.cons_append] at read ⊢
  rw [markup]
  · rw [read]; rfl
  · exact fun _ met => other (by decide) (List.cons.inj met).1
  · exact fun _ met => other (by decide) (List.cons.inj met).1
  · exact fun _ met => other (by decide) (List.cons.inj met).1

section

variable {c : Context} (ruleless : c.dtd.rules = []) {p : Progress} {name : Name} {attributes : List Attribute}

include ruleless

/-- A start tag up to what ends it opens its element. -/
theorem readFrom_startTag (unbound : p.scope.space? none = none) (plain : PlainTag name attributes)
    {tail left after : List Char} {closed : Bool} (stops : tail.head? = some ' ' ∨ tail.head? = some '>')
    (closes : Scan.attributes tail = .ok ([], left)) (ends : Scan.tagEnd left = .ok (closed, after)) :
    readFrom c p ('<' :: (name.part.toList ++ attributes.flatMap writeAttribute ++ tail)) =
      readOn c (if closed then (p.entered name attributes).close else p.entered name attributes) after := by
  obtain ⟨unqualified, named, known⟩ := plain
  have each := ((plainAttributes_iff attributes).1 known).1
  obtain ⟨raws, shown, read⟩ := Scan.startTag_written named each stops closes ends
  rw [List.append_assoc] at read ⊢
  have lexed := Content.lexemes_markup (Scan.markup_startTag named read) (by simp)
  refine readFrom_step lexed ?_
  simp only [Progress.step, Opening.ofTag_written ruleless _ unbound p.spent name.part known shown closed]
  rw [Progress.entered, ← unqualified]

theorem readFrom_entered (unbound : p.scope.space? none = none) (plain : PlainTag name attributes)
    (s : List Char) :
    readFrom c p ('<' :: (name.part.toList ++ attributes.flatMap writeAttribute) ++ '>' :: s) =
      readFrom c (p.entered name attributes) s := by
  have closes : Scan.attributes ('>' :: s) = .ok ([], '>' :: s) := by
    rw [Scan.attributes]; rfl
  rw [List.cons_append, readFrom_startTag ruleless unbound plain (.inr rfl) closes rfl]
  exact readOn_inside (List.cons_ne_nil _ _)

/-- An element without content is written with one tag. -/
theorem readFrom_empty (unbound : p.scope.space? none = none) (plain : PlainTag name attributes) (s : List Char) :
    readFrom c p (writeNode (.element name attributes []) ++ s) =
      readOn c { p with nodes := .element name attributes [] :: p.nodes } s := by
  have written : writeNode (.element name attributes []) ++ s =
      '<' :: (name.part.toList ++ attributes.flatMap writeAttribute ++ (' ' :: '/' :: '>' :: s)) := by
    simp [writeNode]
  have closes : Scan.attributes (' ' :: '/' :: '>' :: s) = .ok ([], '/' :: '>' :: s) := by
    rw [Scan.attributes]; rfl
  rw [written, readFrom_startTag ruleless unbound plain (.inl rfl) closes rfl]
  rfl

end

theorem readFrom_endTag {c : Context} {f : Frame} (named : plainName f.written = true) (outer : List Frame)
    (nodes : List Node) (scope : Scope) (spent : Nat) (s : List Char) :
    readFrom c ⟨f :: outer, nodes, scope, spent⟩ ('<' :: '/' :: (f.written.toList ++ '>' :: s)) =
      readOn c ⟨outer, .element f.name f.attributes nodes.reverse :: f.before, f.scope, spent⟩ s := by
  have read : Scan.markup ('/' :: (f.written.toList ++ '>' :: s)) =
      .ok (.endTag f.written (f.written.toList ++ '>' :: s), s) := by
    rw [Scan.markup, Scan.endTag_written named]; rfl
  refine readFrom_step (Content.lexemes_markup read (by simp)) ?_
  simp only [Progress.step, if_true]
  rfl

/-! Whole trees. -/

/-- An element is read as it was written, wherever it stands. -/
def Node.Read (c : Context) : Node → Prop
  | .char _ => True
  | .element name attributes content => ∀ p s, p.scope.space? none = none →
    readFrom c p (writeNode (.element name attributes content) ++ s) =
      readOn c { p with nodes := .element name attributes (contentUnified content) :: p.nodes } s

def ContentRead (c : Context) (content : List Node) : Prop :=
  ∀ p s, p.frames ≠ [] → p.scope.space? none = none → Opens s →
    readFrom c p (writeContent content ++ s) =
      readFrom c { p with nodes := (contentUnified content).reverse ++ p.nodes } s

section

variable {c : Context} {content rest : List Node}

theorem contentRead_nil : ContentRead c [] := by
  intro p s _ _ _
  rfl

theorem contentRead_lineEnd (later : ContentRead c rest) : ContentRead c (.char '\r' :: .char '\n' :: rest) := by
  intro p s inside unbound opens
  have lexed := Content.lexemes_lineEnd (writeContent rest ++ s)
  have written : writeContent (.char '\r' :: .char '\n' :: rest) ++ s =
      '\r' :: '\n' :: (writeContent rest ++ s) := rfl
  rw [written, readFrom_char inside lexed, later (p.addChar '\n') s inside unbound opens]
  simp [Progress.addChar, contentUnified]

theorem contentRead_char {ch : Char} (legal : isChar ch = true)
    (apart : ∀ others, ch = '\r' → rest ≠ .char '\n' :: others) (later : ContentRead c rest) :
    ContentRead c (.char ch :: rest) := by
  intro p s inside unbound opens
  have unified : contentUnified (.char ch :: rest) =
      .char (if ch == '\r' then '\n' else ch) :: contentUnified rest := by
    rw [contentUnified]
    · rfl
    · intro others same
      exact apart others (Node.char.inj same)
  have text : writeContent (.char ch :: rest) ++ s = writeChar ch ++ (writeContent rest ++ s) := by
    rw [writeContent, writeNode, List.append_assoc]
  rw [unified, text]
  by_cases ret : ch = '\r'
  · subst ret
    obtain ⟨more, feed⟩ := writeContent_not_feed (fun others => apart others rfl) opens
    have written : writeChar '\r' ++ (writeContent rest ++ s) = '\r' :: (writeContent rest ++ s) := rfl
    rw [written, readFrom_char inside (Content.lexemes_return more feed)]
    rw [later (p.addChar '\n') s inside unbound opens]
    simp [Progress.addChar]
  · have open_ (r : List Char) (_ : ch = ']') : writeContent rest ++ s ≠ ']' :: '>' :: r :=
      writeContent_apart rest opens r
    rw [readFrom_writeChar inside legal ret open_, later (p.addChar ch) s inside unbound opens]
    simp [Progress.addChar, ret]

theorem contentRead_element {name : Name} {attributes : List Attribute}
    (first : Node.Read c (.element name attributes content)) (later : ContentRead c rest) :
    ContentRead c (.element name attributes content :: rest) := by
  intro p s inside unbound opens
  have unified : contentUnified (.element name attributes content :: rest) =
      .element name attributes (contentUnified content) :: contentUnified rest := by
    rw [contentUnified]
    · rfl
    · intro others same
      exact absurd same (by simp)
  have read := later { p with nodes := .element name attributes (contentUnified content) :: p.nodes } s inside
    unbound opens
  rw [writeContent, List.append_assoc, first p _ unbound, readOn_inside]
  · rw [read, unified]
    simp
  · exact inside

theorem nodeRead_element (ruleless : c.dtd.rules = []) {name : Name} {attributes : List Attribute}
    (plain : PlainTag name attributes) (inner : ContentRead c content) :
    Node.Read c (.element name attributes content) := by
  intro p s unbound
  by_cases empty : content = []
  · subst empty
    exact readFrom_empty ruleless unbound plain s
  · have text : writeNode (.element name attributes content) ++ s =
        '<' :: (name.part.toList ++ attributes.flatMap writeAttribute) ++ '>' ::
          (writeContent content ++ '<' :: '/' :: (name.part.toList ++ '>' :: s)) := by
      rw [writeNode_filled name attributes empty]
      simp
    have opens : Opens ('<' :: '/' :: (name.part.toList ++ '>' :: s)) := ⟨'<', _, rfl, by decide⟩
    rw [text, readFrom_entered ruleless unbound plain]
    rw [inner (p.entered name attributes) _ (List.cons_ne_nil _ _) unbound opens]
    refine (readFrom_endTag plain.named p.frames _ p.scope p.spent s).trans ?_
    simp [Progress.entered, Progress.openElement]

/-- A written tree is read back, with the ends of its lines unified. A carriage return is read together with a line
feed after it, so the cases are those of the unification and not those of the list. -/
theorem contentRead_of_plain (ruleless : c.dtd.rules = []) (content : List Node)
    (plain : contentPlain content = true) (legal : contentLegal content = true) : ContentRead c content := by
  revert plain legal
  refine contentUnified.induct (fun node => node.plain = true → node.legal = true → node.Read c)
    (fun content => contentPlain content = true → contentLegal content = true → ContentRead c content)
    ?char ?element ?nil ?lineEnd ?node content
  case char => exact fun _ _ _ => trivial
  case element =>
    intro name attributes content ih plain legal
    obtain ⟨tag, inner⟩ := (Node.plain_element_iff name attributes content).1 plain
    exact nodeRead_element ruleless tag (ih inner legal)
  case nil => exact fun _ _ => contentRead_nil
  case lineEnd =>
    intro rest ih plain legal
    simp only [contentPlain, contentLegal, Node.plain, Bool.and_eq_true] at plain legal
    exact contentRead_lineEnd (ih plain.2.2 legal.2.2)
  case node =>
    intro node rest apart first later plain legal
    simp only [contentPlain, contentLegal, Bool.and_eq_true] at plain legal
    cases node with
    | char ch =>
      refine contentRead_char legal.1 ?_ (later plain.2 legal.2)
      rintro others rfl
      exact apart others rfl
    | element => exact contentRead_element (first plain.1 legal.1) (later plain.2 legal.2)

/-! Characters that may not occur. -/

/-- Reading fails in a node, wherever it stands. -/
def Node.Unreadable (c : Context) (node : Node) : Prop :=
  ∀ p s, p.scope.space? none = none → ∃ fault, readFrom c p (writeNode node ++ s) = .error fault

theorem writeContent_append (before after : List Node) :
    writeContent (before ++ after) = writeContent before ++ writeContent after := by
  induction before with
  | nil => rfl
  | cons node rest ih => rw [List.cons_append, writeContent, writeContent, ih, List.append_assoc]

/-- The nodes before the first one with a character that may not occur. -/
theorem exists_first_illegal (content : List Node) (illegal : contentLegal content = false) :
    ∃ before node after, content = before ++ node :: after ∧ contentLegal before = true ∧ node.legal = false := by
  induction content with
  | nil => exact absurd illegal (by decide)
  | cons node rest ih =>
    by_cases here : node.legal = true
    · rw [contentLegal, here, Bool.true_and] at illegal
      obtain ⟨before, bad, after, rfl, legal, found⟩ := ih illegal
      exact ⟨node :: before, bad, after, rfl, by rw [contentLegal, here, legal]; rfl, found⟩
    · exact ⟨[], node, rest, rfl, rfl, by simpa using here⟩

theorem writeChar_illegal {ch : Char} (illegal : isChar ch = false) : writeChar ch = [ch] := by
  have amp : ch ≠ '&' := ne_of_illegal illegal (by decide)
  have lt : ch ≠ '<' := ne_of_illegal illegal (by decide)
  have gt : ch ≠ '>' := ne_of_illegal illegal (by decide)
  simp [writeChar, amp, lt, gt]

theorem unreadable_char {ch : Char} (illegal : isChar ch = false) : (Node.char ch).Unreadable c := by
  intro p s _
  rw [writeNode, writeChar_illegal illegal]
  exact ⟨_, readFrom_stuck (Content.lexemes_illegal illegal s)⟩

/-- An illegal node opens with none of the characters that would be taken together with those before it. -/
theorem opens_illegal {node : Node} (illegal : node.legal = false) (s : List Char) :
    Opens (writeNode node ++ s) := by
  cases node with
  | char ch =>
    have other {d : Char} (legal : isChar d = true) : ch ≠ d := ne_of_illegal illegal legal
    rw [writeNode, writeChar_illegal illegal]
    exact ⟨ch, s, rfl, other (by decide), other (by decide), other (by decide)⟩
  | element name attributes content =>
    obtain ⟨r, written⟩ := writeNode_head name attributes content
    rw [written]
    exact ⟨'<', _, rfl, by decide⟩

theorem unreadable_element (ruleless : c.dtd.rules = []) {name : Name} {attributes : List Attribute}
    (plain : PlainTag name attributes) {before after : List Node} (read : ContentRead c before) {bad : Node}
    (illegal : bad.legal = false) (unreadable : bad.Unreadable c) : (Node.element name attributes (before ++ bad :: after)).Unreadable c := by
  intro p s unbound
  have filled : before ++ bad :: after ≠ [] := by simp
  have text : writeNode (.element name attributes (before ++ bad :: after)) ++ s =
      '<' :: (name.part.toList ++ attributes.flatMap writeAttribute) ++ '>' :: (writeContent before ++
        (writeNode bad ++ (writeContent after ++ '<' :: '/' :: (name.part.toList ++ '>' :: s)))) := by
    rw [writeNode_filled name attributes filled, writeContent_append, writeContent]
    simp
  rw [text, readFrom_entered ruleless unbound plain]
  rw [read (p.entered name attributes) _ (List.cons_ne_nil _ _) unbound (opens_illegal illegal _)]
  exact unreadable _ _ unbound

theorem unreadable_of_illegal (ruleless : c.dtd.rules = []) (node : Node) (plain : node.plain = true)
    (illegal : node.legal = false) : node.Unreadable c := by
  induction node using Node.induct with
  | char ch => exact unreadable_char illegal
  | element name attributes content ih =>
    obtain ⟨tag, inner⟩ := (Node.plain_element_iff name attributes content).1 plain
    obtain ⟨before, bad, after, rfl, legal, found⟩ := exists_first_illegal content illegal
    rw [contentPlain_eq_all, List.all_append, List.all_cons, Bool.and_eq_true, Bool.and_eq_true] at inner
    have read : ContentRead c before :=
      contentRead_of_plain ruleless before (by rw [contentPlain_eq_all, inner.1]) legal
    exact unreadable_element ruleless tag read found (ih bad (by simp) inner.2.1 found)

end

end ServiceLease.Xml
