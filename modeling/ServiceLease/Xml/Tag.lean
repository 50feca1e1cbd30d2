import ServiceLease.Xml.Scan

/-! Start and end tags as they are written. -/
namespace ServiceLease.Xml

/-- An attribute with its raw value; `start` begins at its name and `after` at the quote
that closes the value. -/
structure RawAttribute where
  name : Written
  value : List Char
  start : List Char
  after : List Char

structure Tag where
  name : Written
  attributes : List RawAttribute
  /-- Whether the tag is its own end tag. -/
  closed : Bool

namespace Scan

/-- An attribute value up to the quote that closes it. A reference in it has to be
complete; its characters belong to the value. -/
def attributeValue (mark : Char) : List Char → Scan (List Char)
  | [] => .error .ended
  | c :: rest =>
    if c == mark then .ok ([], c :: rest)
    else if c == '<' || !isChar c then .error (.unexpected (c :: rest))
    else
      match (if c == '&' then (reference rest).map fun _ => () else .ok ()) with
      | .error e => .error e
      | .ok () =>
        match attributeValue mark rest with
        | .error e => .error e
        | .ok (value, after) => .ok (c :: value, after)

theorem attributeValue_shorter (h : attributeValue mark s = .ok (v, rest)) :
    rest.length ≤ s.length ∧ ∃ c r, rest = c :: r := by
  induction s generalizing v with
  | nil => simp [attributeValue] at h
  | cons c s ih =>
    unfold attributeValue at h
    split at h
    · simp at h; grind
    · split at h
      · simp at h
      · split at h
        · simp at h
        · split at h
          · simp at h
          · next tail =>
            simp only [Except.ok.injEq, Prod.mk.injEq] at h
            have := ih (h.2 ▸ tail)
            simp only [List.length_cons]; grind

def equals (s : List Char) : Scan Char :=
  match skipBlank s with
  | [] => .error .ended
  | '=' :: rest =>
    match skipBlank rest with
    | [] => .error .ended
    | c :: rest => if c == '"' || c == '\x27' then .ok (c, rest) else .error (.unexpected (c :: rest))
  | rest => .error (.unexpected rest)

theorem length_skipBlank_le (s : List Char) : (skipBlank s).length ≤ s.length := length_dropWhile_le _ s

theorem equals_shorter (h : equals s = .ok (c, rest)) : rest.length < s.length := by
  have := length_skipBlank_le s
  unfold equals at h
  split at h
  · simp at h
  · next r first =>
    have := length_skipBlank_le r
    split at h
    · simp at h
    · split at h <;> simp_all
      omega
  · simp at h

def assignment (s : List Char) : Scan RawAttribute :=
  match qualified s with
  | .error e => .error e
  | .ok (name, rest) =>
    match equals rest with
    | .error e => .error e
    | .ok (mark, rest) =>
      match attributeValue mark rest with
      | .error e => .error e
      | .ok (value, after) => .ok (⟨name, value, s, after⟩, after.tail)

theorem assignment_shorter (h : assignment s = .ok (a, rest)) : rest.length < s.length := by
  unfold assignment at h
  split at h
  · simp at h
  · next first =>
    have := qualified_shorter first
    split at h
    · simp at h
    · next second =>
      have := equals_shorter second
      split at h
      · simp at h
      · next third =>
        have := attributeValue_shorter third
        simp at h; grind

/-- Attributes up to the end of a tag; each has a blank before it. -/
def attributes (s : List Char) : Scan (List RawAttribute) :=
  match s with
  | [] => .error .ended
  | c :: rest =>
    if c == '>' || c == '/' then .ok ([], s)
    else if !isBlank c then .error (.unexpected s)
    else
      match skipBlank rest with
      | [] => .error .ended
      | '>' :: more => .ok ([], '>' :: more)
      | '/' :: more => .ok ([], '/' :: more)
      | _ :: _ =>
        match _h : assignment (skipBlank rest) with
        | .error e => .error e
        | .ok (a, after) =>
          match attributes after with
          | .error e => .error e
          | .ok (as, after) => .ok (a :: as, after)
termination_by s.length
decreasing_by
  have := assignment_shorter _h
  have := length_skipBlank_le rest
  simp only [List.length_cons]; omega

def tagEnd : List Char → Scan Bool
  | [] => .error .ended
  | '>' :: rest => .ok (false, rest)
  | ['/'] => .error .ended
  | '/' :: '>' :: rest => .ok (true, rest)
  | '/' :: rest => .error (.unexpected rest)
  | rest => .error (.unexpected rest)

def startTag (s : List Char) : Scan Tag :=
  match qualified s with
  | .error e => .error e
  | .ok (name, rest) =>
    match attributes rest with
    | .error e => .error e
    | .ok (as, rest) =>
      match tagEnd rest with
      | .error e => .error e
      | .ok (closed, rest) => .ok (⟨name, as, closed⟩, rest)

/-- What follows the slash of an end tag. Colons are not looked at, since the name has to
be that of the start tag anyway. -/
def endTag : List Char → Scan String
  | [] => .error .ended
  | c :: rest =>
    if isNameStart c then
      let inName (c : Char) : Bool := isNameChar c || c == ':'
      match skipBlank (rest.dropWhile inName) with
      | [] => .error .ended
      | '>' :: after => .ok (String.ofList (c :: rest.takeWhile inName), after)
      | rest => .error (.unexpected rest)
    else .error (.unexpected (c :: rest))

theorem attributes_shorter (h : attributes s = .ok (as, rest)) : rest.length ≤ s.length := by
  have skip (t u : List Char) (e : skipBlank t = u) : u.length ≤ t.length := e ▸ length_skipBlank_le t
  fun_induction attributes s generalizing as rest with
  | case1 => simp at h
  | case2 => simp at h; simp [← h.2]
  | case3 => simp at h
  | case4 => simp at h
  | case5 _ t _ _ _ blank => have := skip _ _ blank; simp at h; grind
  | case6 _ t _ _ _ blank => have := skip _ _ blank; simp at h; grind
  | case7 => simp at h
  | case8 => simp at h
  | case9 _ t _ _ _ _ _ _ _ _ _ first _ _ _ ih =>
    have := assignment_shorter first
    have := skip t _ rfl
    simp only [Except.ok.injEq, Prod.mk.injEq] at h
    simp only [List.length_cons]; grind

theorem tagEnd_shorter (h : tagEnd s = .ok (b, rest)) : rest.length < s.length := by
  unfold tagEnd at h
  split at h <;> simp only [Except.ok.injEq, Prod.mk.injEq, reduceCtorEq] at h
  · simp only [← h.2, List.length_cons]; omega
  · simp only [← h.2, List.length_cons]; omega

theorem startTag_shorter (h : startTag s = .ok (t, rest)) : rest.length < s.length := by
  unfold startTag at h
  split at h
  · simp at h
  · next first =>
    have := qualified_shorter first
    split at h
    · simp at h
    · next second =>
      have := attributes_shorter second
      split at h
      · simp at h
      · next third =>
        have := tagEnd_shorter third
        simp at h; grind

theorem endTag_shorter (h : endTag s = .ok (n, rest)) : rest.length < s.length := by
  unfold endTag at h
  split at h
  · simp at h
  · next c s =>
    split at h
    · have := length_skipBlank_le (s.dropWhile fun c => isNameChar c || c == ':')
      have := length_dropWhile_le (fun c => isNameChar c || c == ':') s
      simp only at h
      split at h <;> simp_all
      omega
    · simp at h

end Scan

end ServiceLease.Xml
