import ServiceLease.Xml.Lexeme
import ServiceLease.Xml.Tag

/-! The content of elements as tokens. Every end of a line counts as a line feed. -/
namespace ServiceLease.Xml

inductive Token where
  | char (c : Char)
  /-- A reference to a character that cannot occur in a document. -/
  | badNumber
  | reference (name : String)
  | startTag (tag : Tag)
  /-- An end tag; its name begins at `start`. -/
  | endTag (name : String) (start : List Char)
  /-- A comment or an instruction. -/
  | aside
  /-- What may stand only at the very beginning. -/
  | declaration
  /-- The opening of a section without markup. -/
  | verbatim

namespace Scan

def sectionMark : List Char := ['C', 'D', 'A', 'T', 'A', '[']

def exactly : List Char → List Char → Scan Unit
  | [], rest => .ok ((), rest)
  | _ :: _, [] => .error .ended
  | m :: mark, c :: rest => if c == m then exactly mark rest else .error (.unexpected (c :: rest))

theorem exactly_shorter (h : exactly mark s = .ok (u, rest)) : rest.length ≤ s.length := by
  induction mark generalizing s with
  | nil => simp [exactly] at h; simp [h]
  | cons m mark ih =>
    cases s with
    | nil => simp [exactly] at h
    | cons c s =>
      simp only [exactly] at h
      split at h
      · have := ih h; simp; omega
      · simp at h

def octets : List Char → Nat
  | [] => 0
  | c :: rest => c.utf8Size + octets rest

/-- The rest of the opening of a section. It is looked at only when as many octets are
there as the mark has. -/
def sectionOpening (s : List Char) : Scan Unit :=
  if octets (s.take sectionMark.length) < sectionMark.length then .error .ended
  else exactly sectionMark s

def special : List Char → Scan Token
  | [] => .error .ended
  | '-' :: rest => value (fun _ => .aside) (comment rest)
  | '[' :: rest => value (fun _ => .verbatim) (sectionOpening rest)
  | rest => .error (.unexpected rest)

def markup : List Char → Scan Token
  | '/' :: rest => value (.endTag · rest) (endTag rest)
  | '?' :: rest => value (fun body => if body.isSome then .declaration else .aside) (instruction rest)
  | '!' :: rest => special rest
  | rest => value .startTag (startTag rest)

theorem special_shorter (h : special s = .ok (t, rest)) : rest.length < s.length := by
  unfold special at h
  split at h
  · simp at h
  · obtain ⟨_, e⟩ := of_value h
    have := comment_shorter e
    simp only [List.length_cons]; omega
  · obtain ⟨_, e⟩ := of_value h
    unfold sectionOpening at e
    split at e
    · simp at e
    · have := exactly_shorter e
      simp only [List.length_cons]; omega
  · simp at h

theorem markup_shorter (h : markup s = .ok (t, rest)) : rest.length < s.length := by
  unfold markup at h
  split at h
  · obtain ⟨_, e⟩ := of_value h
    have := endTag_shorter e
    simp only [List.length_cons]; omega
  · obtain ⟨_, e⟩ := of_value h
    have := instruction_shorter e
    simp only [List.length_cons]; omega
  · have := special_shorter h
    simp only [List.length_cons]; omega
  · obtain ⟨_, e⟩ := of_value h
    exact startTag_shorter e

end Scan

namespace Content

def referenceToken : Reference → Token
  | .character (some c) => .char c
  | .character none => .badNumber
  | .entity name => .reference name

mutual

/-- The tokens of content. A carriage return at the very end shows where it stands. -/
def lexemes (s : List Char) : Lexed Token :=
  match s with
  | [] => .done 0
  | '<' :: rest =>
    match _h : Scan.markup rest with
    | .error snag => .stuck (snag.fault s)
    | .ok (.verbatim, after) => .cons ⟨.verbatim, s, after⟩ (verbatimLexemes after)
    | .ok (token, after) => .cons ⟨token, s, after⟩ (lexemes after)
  | '&' :: rest =>
    match _h : Scan.reference rest with
    | .error snag => .stuck (snag.fault s)
    | .ok (r, after) => .cons ⟨referenceToken r, s, after⟩ (lexemes after)
  | ']' :: ']' :: '>' :: rest => .stuck ⟨.invalidToken, rest.length + 1⟩
  | ['\r'] => .cons ⟨.char '\n', s, []⟩ (.done 1)
  | '\r' :: '\n' :: rest => .cons ⟨.char '\n', s, rest⟩ (lexemes rest)
  | c :: rest =>
    if c == '\r' then .cons ⟨.char '\n', s, rest⟩ (lexemes rest)
    else if isChar c then .cons ⟨.char c, s, rest⟩ (lexemes rest)
    else .stuck ⟨.invalidToken, s.length⟩
termination_by s.length
decreasing_by
  all_goals first
    | exact Nat.lt_succ_of_lt (Scan.markup_shorter _h)
    | exact Nat.lt_succ_of_lt (Scan.reference_shorter _h)
    | (simp only [List.length_cons]; omega)

def verbatimLexemes (s : List Char) : Lexed Token :=
  match s with
  | ']' :: ']' :: '>' :: rest => lexemes rest
  | [] => .stuck ⟨.unclosedSection, 0⟩
  | [']'] => .stuck ⟨.unclosedSection, 1⟩
  | [']', ']'] => .stuck ⟨.unclosedSection, 2⟩
  | ['\r'] => .stuck ⟨.unclosedSection, 1⟩
  | '\r' :: '\n' :: rest => .cons ⟨.char '\n', s, rest⟩ (verbatimLexemes rest)
  | c :: rest =>
    if c == '\r' then .cons ⟨.char '\n', s, rest⟩ (verbatimLexemes rest)
    else if isChar c then .cons ⟨.char c, s, rest⟩ (verbatimLexemes rest)
    else .stuck ⟨.invalidToken, s.length⟩
termination_by s.length

end

end Content

end ServiceLease.Xml
