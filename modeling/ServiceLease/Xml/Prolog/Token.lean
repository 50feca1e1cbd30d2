import ServiceLease.Xml.Content

/-! The part of a document before its root element as tokens. The same tokens are met
after the root, where only asides may stand. Blanks are left out. -/
namespace ServiceLease.Xml.Prolog

inductive Token where
  /-- A comment or an instruction. -/
  | aside
  | declaration
  /-- The opening of a declaration, with its keyword. -/
  | opening (keyword : String)
  | closing
  | sectionOpening
  | sectionClosing
  | openBracket
  | closeBracket
  | openParen
  /-- A closing parenthesis; `mark` says how often the group may occur. -/
  | closeParen (mark : Option Char)
  | comma
  | bar
  | percent
  /-- A name; `mark` says how often an element of the name may occur. -/
  | name (w : Written) (mark : Option Char)
  /-- A word that is not a name. -/
  | word
  /-- A name after a number sign. -/
  | keyword (s : String)
  /-- The characters between quotes; `after` begins at the closing one. -/
  | literal (s : List Char) (after : List Char)
  /-- A reference to declarations kept elsewhere. -/
  | reference
  | root

def isMark (c : Char) : Bool := c == '?' || c == '*' || c == '+'

def endsWord (c : Char) : Bool :=
  isBlank c || c == '>' || c == ')' || c == ',' || c == '|' || c == '[' || c == '%'

def endsLiteral (c : Char) : Bool := isBlank c || c == '>' || c == '%' || c == '['

def endsKeyword (c : Char) : Bool := isBlank c || c == ')' || c == '>' || c == '%' || c == '|'

def endsGroup (c : Char) : Bool := isBlank c || c == '>' || c == ',' || c == '|' || c == ')'

/-- Accepts what has been read if the text ends there or a fitting character follows. -/
def before (fits : Char → Bool) (a : α) : List Char → Scan α
  | [] => .ok (a, [])
  | c :: rest => if fits c then .ok (a, c :: rest) else .error (.unexpected (c :: rest))

def quoted (mark : Char) : List Char → Scan (List Char)
  | [] => .error .ended
  | c :: rest =>
    if c == mark then .ok ([], c :: rest)
    else if isChar c then
      match quoted mark rest with
      | .error e => .error e
      | .ok (s, after) => .ok (c :: s, after)
    else .error (.unexpected (c :: rest))

def literal (mark : Char) (rest : List Char) : Scan Token :=
  match quoted mark rest with
  | .error e => .error e
  | .ok (s, after) => before endsLiteral (.literal s after) after.tail

/-- A word by its characters, colons among them. A single colon divides a name. -/
inductive Shape where
  | plain
  | divided
  | other
  deriving DecidableEq, Repr

/-- The rest of a word of a shape. A name cannot end with a colon at the end of a
text. -/
def wordRest : Shape → List Char → Scan (Shape × List Char)
  | shape, [] => .ok ((shape, []), [])
  | shape, c :: rest =>
    if isNameChar c then
      match wordRest shape rest with
      | .error e => .error e
      | .ok ((shape, cs), rest) => .ok ((shape, c :: cs), rest)
    else if c == ':' then
      match shape, rest with
      | .plain, [] => .error .ended
      | shape, rest =>
        let divides : Bool := shape == .plain && rest.head?.any isNameChar
        match wordRest (if divides then .divided else .other) rest with
        | .error e => .error e
        | .ok ((shape, cs), rest) => .ok ((shape, c :: cs), rest)
    else if endsWord c || (isMark c && shape != .other) then .ok ((shape, []), c :: rest)
    else .error (.unexpected (c :: rest))

def wordToken (shape : Shape) (cs : List Char) (mark : Option Char) : Token :=
  match shape with
  | .plain => .name ⟨none, String.ofList cs⟩ mark
  | .divided =>
    .name ⟨some (String.ofList (cs.takeWhile (· != ':'))), String.ofList (cs.dropWhile (· != ':')).tail⟩ mark
  | .other => .word

def word (shape : Shape) (c : Char) (rest : List Char) : Scan Token :=
  match wordRest shape rest with
  | .error e => .error e
  | .ok ((shape, cs), []) => .ok (wordToken shape (c :: cs) none, [])
  | .ok ((shape, cs), m :: rest) =>
    if isMark m then .ok (wordToken shape (c :: cs) (some m), rest)
    else .ok (wordToken shape (c :: cs) none, m :: rest)

def isLetter (c : Char) : Bool := c.isAlpha || c == '_'

/-- The rest of the keyword of a declaration. A parameter reference may follow it, but a
sign alone may not. -/
def openingRest : List Char → Scan (List Char)
  | [] => .error .ended
  | c :: rest =>
    if isLetter c then
      match openingRest rest with
      | .error e => .error e
      | .ok (cs, rest) => .ok (c :: cs, rest)
    else if isBlank c then .ok ([], c :: rest)
    else if c == '%' then
      match rest with
      | [] => .error .ended
      | d :: _ => if isBlank d || d == '%' then .error (.unexpected (c :: rest)) else .ok ([], c :: rest)
    else .error (.unexpected (c :: rest))

def special : List Char → Scan Token
  | [] => .error .ended
  | '-' :: rest => Scan.value (fun _ => .aside) (Scan.comment rest)
  | '[' :: rest => .ok (.sectionOpening, rest)
  | c :: rest =>
    if isLetter c then Scan.value (fun cs => .opening (String.ofList (c :: cs))) (openingRest rest)
    else .error (.unexpected (c :: rest))

def markup : List Char → Scan Token
  | [] => .error .ended
  | '!' :: rest => special rest
  | '?' :: rest =>
    Scan.value (fun body => if body.isSome then .declaration else .aside) (Scan.instruction rest)
  | c :: rest =>
    if isLetter c || c.toNat ≥ 0x80 then .ok (.root, c :: rest) else .error (.unexpected (c :: rest))

def percent : List Char → Scan Token
  | [] => .error .ended
  | c :: rest =>
    if isBlank c || c == '%' then .ok (.percent, c :: rest)
    else
      match Scan.name (c :: rest) with
      | .error e => .error e
      | .ok (_, []) => .error .ended
      | .ok (_, ';' :: rest) => .ok (.reference, rest)
      | .ok (_, rest) => .error (.unexpected rest)

def keyword (s : List Char) : Scan Token :=
  match Scan.name s with
  | .error e => .error e
  | .ok (n, rest) => before endsKeyword (.keyword n) rest

def bracket : List Char → Scan Token
  | [']'] => .error .ended
  | ']' :: '>' :: rest => .ok (.sectionClosing, rest)
  | rest => .ok (.closeBracket, rest)

def paren : List Char → Scan Token
  | [] => .ok (.closeParen none, [])
  | c :: rest =>
    if isMark c then .ok (.closeParen (some c), rest) else before endsGroup (.closeParen none) (c :: rest)

def token (c : Char) (rest : List Char) : Scan Token :=
  if c == '<' then markup rest
  else if c == '"' || c == '\x27' then literal c rest
  else if c == '%' then percent rest
  else if c == '#' then keyword rest
  else if c == ',' then .ok (.comma, rest)
  else if c == '|' then .ok (.bar, rest)
  else if c == '>' then .ok (.closing, rest)
  else if c == '[' then .ok (.openBracket, rest)
  else if c == ']' then bracket rest
  else if c == '(' then .ok (.openParen, rest)
  else if c == ')' then paren rest
  else if isNameStart c then word .plain c rest
  else if isNameChar c || c == ':' then word .other c rest
  else .error (.unexpected (c :: rest))

theorem before_shorter (h : before fits a s = .ok (b, rest)) : rest.length ≤ s.length := by
  cases s with
  | nil => simp [before] at h; simp [h]
  | cons c s =>
    simp only [before] at h
    split at h <;> simp_all

theorem quoted_shorter (h : quoted mark s = .ok (v, rest)) : rest.length ≤ s.length := by
  induction s generalizing v with
  | nil => simp [quoted] at h
  | cons c s ih =>
    unfold quoted at h
    split at h
    · simp at h; simp [← h.2]
    · split at h
      · split at h
        · simp at h
        · next tail =>
          simp only [Except.ok.injEq, Prod.mk.injEq] at h
          have := ih (h.2 ▸ tail)
          simp only [List.length_cons]; omega
      · simp at h

theorem literal_shorter (h : literal mark s = .ok (t, rest)) : rest.length ≤ s.length := by
  unfold literal at h
  split at h
  · simp at h
  · next value =>
    have := quoted_shorter value
    have := before_shorter h
    simp at this; omega

theorem wordRest_shorter (h : wordRest shape s = .ok (r, rest)) : rest.length ≤ s.length := by
  induction s generalizing shape r with
  | nil => simp [wordRest] at h; simp [h]
  | cons c s ih =>
    unfold wordRest at h
    split at h
    · split at h
      · simp at h
      · next tail =>
        simp only [Except.ok.injEq, Prod.mk.injEq] at h
        have := ih (h.2 ▸ tail)
        simp only [List.length_cons]; omega
    · split at h
      · split at h
        · simp at h
        · simp only at h
          split at h
          · simp at h
          · next tail =>
            simp only [Except.ok.injEq, Prod.mk.injEq] at h
            have := ih (h.2 ▸ tail)
            simp only [List.length_cons]; omega
      · split at h
        · simp at h; simp [← h.2]
        · simp at h

theorem word_shorter (h : word shape c s = .ok (t, rest)) : rest.length ≤ s.length := by
  unfold word at h
  split at h
  · simp at h
  · simp at h; simp [h]
  · next first =>
    have := wordRest_shorter first
    simp only [List.length_cons] at this
    split at h <;> simp only [Except.ok.injEq, Prod.mk.injEq] at h <;> simp only [← h.2, List.length_cons] <;> omega

theorem openingRest_shorter (h : openingRest s = .ok (cs, rest)) : rest.length ≤ s.length := by
  induction s generalizing cs with
  | nil => simp [openingRest] at h
  | cons c s ih =>
    unfold openingRest at h
    split at h
    · split at h
      · simp at h
      · next tail =>
        simp only [Except.ok.injEq, Prod.mk.injEq] at h
        have := ih (h.2 ▸ tail)
        simp only [List.length_cons]; omega
    · split at h
      · simp at h; simp [← h.2]
      · split at h
        · split at h
          · simp at h
          · split at h <;> simp at h
            simp [← h.2]
        · simp at h

theorem special_shorter (h : special s = .ok (t, rest)) : rest.length ≤ s.length := by
  unfold special at h
  split at h
  · simp at h
  · obtain ⟨_, e⟩ := Scan.of_value h
    have := Scan.comment_shorter e
    simp only [List.length_cons]; omega
  · simp at h; simp [← h.2]
  · split at h
    · obtain ⟨_, e⟩ := Scan.of_value h
      have := openingRest_shorter e
      simp only [List.length_cons]; omega
    · simp at h

theorem markup_shorter (h : markup s = .ok (t, rest)) : rest.length ≤ s.length := by
  unfold markup at h
  split at h
  · simp at h
  · have := special_shorter h
    simp only [List.length_cons]; omega
  · obtain ⟨_, e⟩ := Scan.of_value h
    have := Scan.instruction_shorter e
    simp only [List.length_cons]; omega
  · split at h <;> simp at h
    simp [← h.2]

theorem percent_shorter (h : percent s = .ok (t, rest)) : rest.length ≤ s.length := by
  unfold percent at h
  split at h
  · simp at h
  · split at h
    · simp at h; simp [← h.2]
    · split at h
      · simp at h
      · simp at h
      · next first =>
        have := Scan.name_shorter first
        simp at h this; grind
      · simp at h

theorem keyword_shorter (h : keyword s = .ok (t, rest)) : rest.length ≤ s.length := by
  unfold keyword at h
  split at h
  · simp at h
  · next first =>
    have := Scan.name_shorter first
    have := before_shorter h
    omega

theorem bracket_shorter (h : bracket s = .ok (t, rest)) : rest.length ≤ s.length := by
  unfold bracket at h
  split at h
  · simp at h
  · simp only [Except.ok.injEq, Prod.mk.injEq] at h
    simp only [← h.2, List.length_cons]; omega
  · simp only [Except.ok.injEq, Prod.mk.injEq] at h
    simp [← h.2]

theorem paren_shorter (h : paren s = .ok (t, rest)) : rest.length ≤ s.length := by
  unfold paren at h
  split at h
  · simp at h; simp [h]
  · split at h
    · simp at h; simp [h]
    · exact before_shorter h

theorem of_ite {c : Prop} [Decidable c] {x y z : α} {p : Prop} (h : (if c then x else y) = z)
    (yes : x = z → p) (no : y = z → p) : p := by
  split at h
  · exact yes h
  · exact no h

theorem token_shorter (h : token c s = .ok (t, rest)) : rest.length ≤ s.length := by
  have same (t' : Token) (h : (Except.ok (t', s) : Scan Token) = .ok (t, rest)) : rest.length ≤ s.length := by
    simp only [Except.ok.injEq, Prod.mk.injEq] at h
    simp [← h.2]
  refine of_ite h markup_shorter fun h => ?_
  refine of_ite h literal_shorter fun h => ?_
  refine of_ite h percent_shorter fun h => ?_
  refine of_ite h keyword_shorter fun h => ?_
  refine of_ite h (same _) fun h => ?_
  refine of_ite h (same _) fun h => ?_
  refine of_ite h (same _) fun h => ?_
  refine of_ite h (same _) fun h => ?_
  refine of_ite h bracket_shorter fun h => ?_
  refine of_ite h (same _) fun h => ?_
  refine of_ite h paren_shorter fun h => ?_
  refine of_ite h word_shorter fun h => ?_
  exact of_ite h word_shorter fun h => by simp at h

def lexemes (s : List Char) : Lexed Token :=
  match s with
  | [] => .done 0
  | c :: rest =>
    if isBlank c then lexemes rest
    else
      match _h : token c rest with
      | .error snag => .stuck (snag.fault s)
      | .ok (.root, after) => .cons ⟨.root, s, after⟩ (.done after.length)
      | .ok (t, after) => .cons ⟨t, s, after⟩ (lexemes after)
termination_by s.length
decreasing_by
  · simp
  · have := token_shorter _h
    simp only [List.length_cons]; omega

end ServiceLease.Xml.Prolog
