import ServiceLease.Text.Hex
import ServiceLease.Xml.Chars
import ServiceLease.Xml.Error

/-! Reading the smallest parts of a document from the front of a text: names,
references, and what is passed over. What has been read is shorter than the text it was
read from, by the lemma that stands beside each scanner. -/
namespace ServiceLease.Xml

/-- Why nothing could be read: the text ends too soon, or `rest` does not fit. -/
inductive Snag where
  | ended
  | unexpected (rest : List Char)
  deriving DecidableEq, Repr

def Snag.fault (start : List Char) : Snag → Fault
  | .ended => ⟨.unclosedToken, start.length⟩
  | .unexpected rest => ⟨.invalidToken, rest.length⟩

abbrev Scan (α : Type) := Except Snag (α × List Char)

structure Written where
  qualifier : Option String
  part : String
  deriving DecidableEq, Repr

def Written.text (w : Written) : String :=
  match w.qualifier with
  | none => w.part
  | some q => q ++ ":" ++ w.part

inductive Reference where
  /-- A character by its number; `none` if the number is that of no XML character. -/
  | character (c : Option Char)
  | entity (name : String)
  deriving DecidableEq, Repr

namespace Scan

def value (f : α → β) : Scan α → Scan β
  | .error e => .error e
  | .ok (a, rest) => .ok (f a, rest)

theorem of_value {x : Scan α} (h : value f x = .ok (b, rest)) : ∃ a, x = .ok (a, rest) := by
  cases x with
  | error e => simp [value] at h
  | ok r => simp only [value, Except.ok.injEq, Prod.mk.injEq] at h; exact ⟨r.1, by rw [← h.2]⟩

theorem length_dropWhile_le (p : Char → Bool) (s : List Char) : (s.dropWhile p).length ≤ s.length :=
  (List.dropWhile_sublist p).length_le

def name : List Char → Scan String
  | [] => .error .ended
  | c :: rest =>
    if isNameStart c then
      .ok (String.ofList (c :: rest.takeWhile isNameChar), rest.dropWhile isNameChar)
    else .error (.unexpected (c :: rest))

theorem name_shorter (h : name s = .ok (n, rest)) : rest.length < s.length := by
  cases s with
  | nil => simp [name] at h
  | cons c s =>
    simp only [name] at h
    split at h
    · simp only [Except.ok.injEq, Prod.mk.injEq] at h
      have := length_dropWhile_le isNameChar s
      simp only [← h.2, List.length_cons]; omega
    · simp at h

def qualified (s : List Char) : Scan Written :=
  match name s with
  | .error e => .error e
  | .ok (q, ':' :: rest) =>
    match name rest with
    | .error e => .error e
    | .ok (part, rest) => .ok (⟨some q, part⟩, rest)
  | .ok (part, rest) => .ok (⟨none, part⟩, rest)

theorem qualified_shorter (h : qualified s = .ok (w, rest)) : rest.length < s.length := by
  unfold qualified at h
  split at h
  · simp at h
  · next first =>
    have := name_shorter first
    split at h
    · simp at h
    · next second =>
      have := name_shorter second
      simp at h this; grind
  · next _ first =>
    have := name_shorter first
    simp at h; grind

def numberValue (base : Nat) (ds : List Char) : Nat :=
  ds.foldl (fun n d => base * n + (Text.hexDigit? d).getD 0) 0

def numberedChar (n : Nat) : Option Char :=
  if isChar (Char.ofNat n) then some (Char.ofNat n) else none

def isDigitOf (base : Nat) (c : Char) : Bool := (Text.hexDigit? c).any (· < base)

def number (base : Nat) (s : List Char) : Scan Reference :=
  match s.takeWhile (isDigitOf base), s.dropWhile (isDigitOf base) with
  | _, [] => .error .ended
  | [], rest => .error (.unexpected rest)
  | ds, ';' :: rest => .ok (.character (numberedChar (numberValue base ds)), rest)
  | _, rest => .error (.unexpected rest)

theorem number_shorter (h : number base s = .ok (r, rest)) : rest.length < s.length := by
  have short := length_dropWhile_le (isDigitOf base) s
  unfold number at h
  split at h
  · exact absurd h (by simp)
  · exact absurd h (by simp)
  · next after _ =>
    rw [after] at short
    simp only [Except.ok.injEq, Prod.mk.injEq] at h
    rw [← h.2]
    exact short
  · exact absurd h (by simp)

def reference : List Char → Scan Reference
  | '#' :: 'x' :: rest => number 16 rest
  | '#' :: rest => number 10 rest
  | s =>
    match name s with
    | .error e => .error e
    | .ok (_, []) => .error .ended
    | .ok (n, ';' :: rest) => .ok (.entity n, rest)
    | .ok (_, rest) => .error (.unexpected rest)

theorem reference_shorter (h : reference s = .ok (r, rest)) : rest.length < s.length := by
  unfold reference at h
  split at h
  · have := number_shorter h; simp; omega
  · have := number_shorter h; simp; omega
  · split at h
    · simp at h
    · simp at h
    · next first =>
      have := name_shorter first
      simp at h this; grind
    · simp at h

/-- A comment from its second hyphen on. -/
def commentBody : List Char → Scan Unit
  | [] => .error .ended
  | '-' :: '-' :: '>' :: rest => .ok ((), rest)
  | ['-', '-'] => .error .ended
  | '-' :: '-' :: rest => .error (.unexpected rest)
  | c :: rest => if isChar c then commentBody rest else .error (.unexpected (c :: rest))

theorem commentBody_shorter (h : commentBody s = .ok (u, rest)) : rest.length < s.length := by
  fun_induction commentBody s <;> simp_all <;> omega

def comment : List Char → Scan Unit
  | [] => .error .ended
  | '-' :: rest => commentBody rest
  | rest => .error (.unexpected rest)

theorem comment_shorter (h : comment s = .ok (u, rest)) : rest.length < s.length := by
  unfold comment at h
  split at h
  · simp at h
  · have := commentBody_shorter h; simp; omega
  · simp at h

def instructionBody : List Char → Scan (List Char)
  | [] => .error .ended
  | '?' :: '>' :: rest => .ok ([], rest)
  | c :: rest =>
    if isChar c then
      match instructionBody rest with
      | .error e => .error e
      | .ok (body, rest) => .ok (c :: body, rest)
    else .error (.unexpected (c :: rest))

theorem instructionBody_shorter (h : instructionBody s = .ok (b, rest)) : rest.length < s.length := by
  induction s generalizing b with
  | nil => simp [instructionBody] at h
  | cons c s ih =>
    unfold instructionBody at h
    split at h
    · simp at h
    · simp at h; grind
    · split at h
      · split at h
        · simp at h
        · next body => simp at h; grind
      · simp at h

/-- The target that marks a declaration. In other cases it is reserved. -/
def declarationTarget : String := "xml"

def reservedTarget (target : String) : Bool :=
  target != declarationTarget && String.ofList (target.toList.map Char.toLower) == declarationTarget

/-- What follows the question mark of an instruction. Of a declaration the characters
between target and end are given. -/
def instruction (s : List Char) : Scan (Option (List Char)) :=
  match name s with
  | .error e => .error e
  | .ok (_, []) => .error .ended
  | .ok (target, c :: rest) =>
    if !isBlank c && c != '?' then .error (.unexpected (c :: rest))
    else if reservedTarget target then .error (.unexpected (c :: rest))
    else
      match c, rest with
      | '?', [] => .error .ended
      | '?', '>' :: rest => .ok (if target == declarationTarget then some [] else none, rest)
      | '?', rest => .error (.unexpected rest)
      | c, rest =>
        match instructionBody rest with
        | .error e => .error e
        | .ok (body, rest) => .ok (if target == declarationTarget then some (c :: body) else none, rest)

theorem instruction_shorter (h : instruction s = .ok (b, rest)) : rest.length < s.length := by
  unfold instruction at h
  split at h
  · simp at h
  · simp at h
  · next first =>
    have := name_shorter first
    split at h
    · simp at h
    · split at h
      · simp at h
      · split at h
        · simp at h
        · simp at h this; grind
        · simp at h
        · split at h
          · simp at h
          · next body =>
            have := instructionBody_shorter body
            simp at h this; grind

end Scan

end ServiceLease.Xml
