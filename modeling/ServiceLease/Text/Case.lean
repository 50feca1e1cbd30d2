import ServiceLease.Text.CaseTable

/-! Upper and lower case of a whole text, by the full mappings of Unicode: one
character may become several, and a capital sigma at the end of a word has a lower
form of its own. -/
namespace ServiceLease.Text

def shiftBy (runs : List CaseRun) (c : Char) : Char :=
  match runs.find? (·.covers c.toNat) with
  | some r => Char.ofNat (c.toNat + r.shift).toNat
  | none => c

def upperOf (c : Char) : List Char :=
  if c.toNat < 0x80 then [c.toUpper]
  else match upperSequences.lookup c.toNat with
    | some codes => codes.map Char.ofNat
    | none => [shiftBy upperRuns c]

def upper (s : String) : String := String.ofList (s.toList.flatMap upperOf)

/-- Whether a sigma ends a word: the nearest character before it that is not case
ignorable is cased, and the nearest one after it is not. Both sides are given
outward from the sigma. -/
def endsWord (before after : List Char) : Bool :=
  let near (side : List Char) : Bool := ((side.dropWhile caseIgnorable.contains).head?).any cased.contains
  near before && !near after

/-- Lower case of `rest`; `before` holds the characters already passed, last first. -/
def lowerFrom (before : List Char) : List Char → List Char
  | [] => []
  | c :: rest =>
    let here : List Char :=
      if c.toNat < 0x80 then [c.toLower]
      else if c.toNat = 0x3A3 then [if endsWord before rest then 'ς' else 'σ']
      else if c.toNat = 0x130 then ['i', Char.ofNat 0x307]
      else [shiftBy lowerRuns c]
    here ++ lowerFrom (c :: before) rest

def lower (s : String) : String := String.ofList (lowerFrom [] s.toList)

end ServiceLease.Text
