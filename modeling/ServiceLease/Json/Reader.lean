import ServiceLease.Json.Error
import ServiceLease.Number.Decimal
import ServiceLease.Text.Hex
import ServiceLease.Value

/-! Reading JSON. Besides the standard's values a number may be `NaN`, `Infinity` or
`-Infinity`; of members with one name the last counts. Places are counted from the
end of the text, so that reading needs nothing but what is left of it. Every bracket takes
a level of the stack. -/
namespace ServiceLease.Json

/-- Why reading stops. Of an error, `left` characters follow its place. -/
inductive Refusal where
  | malformed (cause : Cause) (left : Nat)
  | tooLong (digits : Nat)
  | tooDeep (need : Descent)
  deriving DecidableEq, Repr

abbrev Step (α : Type) := Except Refusal (α × List Char)

def fail (cause : Cause) (rest : List Char) : Except Refusal α :=
  .error (.malformed cause rest.length)

/-- The levels of the stack that a report from inside a value takes. -/
def reportLevels : Nat := 3

def Refusal.within (levels : Nat) : Refusal → Refusal
  | .malformed cause left => if levels < reportLevels then .tooDeep .call else .malformed cause left
  | e => e

def failWithin (levels : Nat) (cause : Cause) (rest : List Char) : Except Refusal α :=
  .error ((Refusal.malformed cause rest.length).within levels)

def isSpace (c : Char) : Bool := c == ' ' || c == '\t' || c == '\n' || c == '\r'

def skipSpace (s : List Char) : List Char := s.dropWhile isSpace

/-- The UTF-16 unit of four hexadecimal digits. A text cannot end with them, since
the closing quote is still to come. -/
def unit? : List Char → Option (Nat × List Char)
  | a :: b :: c :: d :: e :: rest => do
    let a ← Text.hexDigit? a
    let b ← Text.hexDigit? b
    let c ← Text.hexDigit? c
    let d ← Text.hexDigit? d
    some (((a * 16 + b) * 16 + c) * 16 + d, e :: rest)
  | _ => none

def escape : List Char → Step Nat
  | '"' :: rest => .ok ('"'.toNat, rest)
  | '\\' :: rest => .ok ('\\'.toNat, rest)
  | '/' :: rest => .ok ('/'.toNat, rest)
  | 'b' :: rest => .ok ('\x08'.toNat, rest)
  | 'f' :: rest => .ok ('\x0c'.toNat, rest)
  | 'n' :: rest => .ok ('\n'.toNat, rest)
  | 'r' :: rest => .ok ('\r'.toNat, rest)
  | 't' :: rest => .ok ('\t'.toNat, rest)
  | 'u' :: rest =>
    match unit? rest with
    | none => fail .badUnicodeEscape ('u' :: rest)
    | some (high, after) =>
      match Text.isHighSurrogate high, after with
      | true, '\\' :: 'u' :: second =>
        if second.length < 5 then .ok (high, after)
        else match unit? second with
          | none => fail .badUnicodeEscape ('u' :: second)
          | some (low, rest) =>
            if Text.isLowSurrogate low then .ok (Text.joined high low, rest) else .ok (high, after)
      | _, _ => .ok (high, after)
  | rest => .error (.malformed .unknownEscape (rest.length + 1))

/-- What is left of a string whose opening quote has been read; `start` is the text
after that quote. -/
def stringFrom (start : List Char) : Nat → List Char → Step (List Nat)
  | 0, rest => fail .valueExpected rest
  | fuel + 1, s =>
    match s with
    | [] => .error (.malformed .unterminatedString (start.length + 1))
    | ['\\'] => .error (.malformed .unterminatedString (start.length + 1))
    | '"' :: rest => .ok ([], rest)
    | '\\' :: rest =>
      match escape rest with
      | .error e => .error e
      | .ok (c, rest) =>
        match stringFrom start fuel rest with
        | .error e => .error e
        | .ok (cs, rest) => .ok (c :: cs, rest)
    | c :: rest =>
      if c.toNat < 0x20 then fail .controlCharacter s
      else
        match stringFrom start fuel rest with
        | .error e => .error e
        | .ok (cs, rest) => .ok (c.toNat :: cs, rest)

def string (levels fuel : Nat) (rest : List Char) : Step (List Nat) :=
  match stringFrom rest fuel rest with
  | .error e => .error (e.within levels)
  | .ok (codes, rest) => .ok (codes, rest)

def digitsOf (cs : List Char) : Nat := Nat.ofDigitChars 10 cs 0

def fraction : List Char → List Char × List Char
  | '.' :: c :: rest =>
    if c.isDigit then (c :: rest.takeWhile (·.isDigit), rest.dropWhile (·.isDigit))
    else ([], '.' :: c :: rest)
  | rest => ([], rest)

def exponent? (s : List Char) : Option (Int × List Char) :=
  match s with
  | e :: rest =>
    if e == 'e' || e == 'E' then
      let (negative, body) : Bool × List Char := match rest with
        | '-' :: more => (true, more)
        | '+' :: more => (false, more)
        | more => (false, more)
      match body.takeWhile (·.isDigit) with
      | [] => none
      | ds => some (if negative then -(digitsOf ds : Int) else digitsOf ds, body.dropWhile (·.isDigit))
    else none
  | [] => none

/-- The digits before the point: a lone zero, or digits of which the first is none. -/
def whole? : List Char → Option (List Char × List Char)
  | '0' :: rest => some (['0'], rest)
  | c :: rest =>
    if c.isDigit then some (c :: rest.takeWhile (·.isDigit), rest.dropWhile (·.isDigit)) else none
  | [] => none

def unsigned (negative : Bool) (s : List Char) : Option (Except Refusal Value × List Char) :=
  (whole? s).map fun (ds, rest) =>
    let (fs, afterPoint) := fraction rest
    match exponent? afterPoint with
    | some (e, after) => (.ok (.float (.ofDecimal negative (digitsOf (ds ++ fs)) (e - fs.length))), after)
    | none =>
      if fs.isEmpty then
        if ds.length ≤ Decimal.digitLimit then
          (.ok (.int (if negative then -(digitsOf ds : Int) else digitsOf ds)), rest)
        else (.error (.tooLong ds.length), rest)
      else (.ok (.float (.ofDecimal negative (digitsOf (ds ++ fs)) (-fs.length))), afterPoint)

/-- A constant that is no JSON number, which a call gives. -/
def constant (levels : Nat) (x : Binary64) (rest : List Char) : Step Value :=
  if levels = 0 then .error (.tooDeep .call) else .ok (.float x, rest)

def atom (levels : Nat) (s : List Char) : Step Value :=
  match s with
  | 'n' :: 'u' :: 'l' :: 'l' :: rest => .ok (.null, rest)
  | 't' :: 'r' :: 'u' :: 'e' :: rest => .ok (.bool true, rest)
  | 'f' :: 'a' :: 'l' :: 's' :: 'e' :: rest => .ok (.bool false, rest)
  | 'N' :: 'a' :: 'N' :: rest => constant levels .nan rest
  | 'I' :: 'n' :: 'f' :: 'i' :: 'n' :: 'i' :: 't' :: 'y' :: rest => constant levels (.infinity false) rest
  | '-' :: 'I' :: 'n' :: 'f' :: 'i' :: 'n' :: 'i' :: 't' :: 'y' :: rest =>
    constant levels (.infinity true) rest
  | '-' :: rest => number true rest
  | rest => number false rest
where
  number (negative : Bool) (rest : List Char) : Step Value :=
    match unsigned negative rest with
    | none => fail .valueExpected s
    | some (.error e, _) => .error e
    | some (.ok v, rest) => .ok (v, rest)

mutual

/-- One value at the front of a text, with so many levels of the stack left for what it
holds. Of any two calls in a row at least one has read a character, so fuel beyond twice
the length of the text is enough. -/
def value (levels : Nat) : Nat → List Char → Step Value
  | 0, s => fail .valueExpected s
  | fuel + 1, s =>
    match s with
    | '"' :: rest =>
      match string levels fuel rest with
      | .error e => .error e
      | .ok (codes, rest) => .ok (.ofCodes codes, rest)
    | '[' :: rest =>
      match levels with
      | 0 => .error (.tooDeep .list)
      | inner + 1 =>
        match skipSpace rest with
        | ']' :: rest => .ok (.list [], rest)
        | rest =>
          match items inner fuel rest with
          | .error e => .error e
          | .ok (vs, rest) => .ok (.list vs, rest)
    | '{' :: rest =>
      match levels with
      | 0 => .error (.tooDeep .object)
      | inner + 1 =>
        match skipSpace rest with
        | '}' :: rest => .ok (.object [], rest)
        | rest =>
          match members inner fuel [] rest with
          | .error e => .error e
          | .ok (ms, rest) => .ok (.object ms, rest)
    | s => atom levels s

def items (levels : Nat) : Nat → List Char → Step (List Value)
  | 0, s => fail .valueExpected s
  | fuel + 1, s =>
    match value levels fuel s with
    | .error e => .error e
    | .ok (v, rest) =>
      match skipSpace rest with
      | ']' :: rest => .ok ([v], rest)
      | ',' :: rest =>
        match items levels fuel (skipSpace rest) with
        | .error e => .error e
        | .ok (vs, rest) => .ok (v :: vs, rest)
      | rest => failWithin levels .commaExpected rest

def members (levels : Nat) : Nat → Members → List Char → Step Members
  | 0, _, s => fail .valueExpected s
  | fuel + 1, known, s =>
    match s with
    | '"' :: rest =>
      match string levels fuel rest with
      | .error e => .error e
      | .ok (codes, rest) =>
        match skipSpace rest with
        | ':' :: rest =>
          match value levels fuel (skipSpace rest) with
          | .error e => .error e
          | .ok (v, rest) =>
            let known := known.put (Text.replaced codes) v
            match skipSpace rest with
            | '}' :: rest => .ok (known, rest)
            | ',' :: rest => members levels fuel known (skipSpace rest)
            | rest => failWithin levels .commaExpected rest
        | rest => failWithin levels .colonExpected rest
    | rest => failWithin levels .nameExpected rest

end

def Refusal.located (text : List Char) : Refusal → Failure
  | .malformed cause left => .malformed (.at cause text left)
  | .tooLong digits => .tooLong digits
  | .tooDeep need => .tooDeep need

/-- The only value of a text, which may have blanks around it but no byte order mark
before it. -/
def readChars (levels : Nat) (s : List Char) : Except Refusal Value :=
  match s with
  | '\uFEFF' :: _ => fail .byteOrderMark s
  | _ =>
    match value levels (2 * s.length + 1) (skipSpace s) with
    | .error e => .error e
    | .ok (v, rest) =>
      match skipSpace rest with
      | [] => .ok v
      | rest => fail .extraData rest

def readIn (levels : Nat) (text : String) : Except Failure Value :=
  (readChars levels text.toList).mapError (·.located text.toList)

/-- The levels that are left if a text is read from the outermost level. -/
def outermost : Nat := 994

def read (text : String) : Except Failure Value := readIn outermost text

end ServiceLease.Json
