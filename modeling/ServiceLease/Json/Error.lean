/-! Why a text is not JSON, and where. -/
namespace ServiceLease.Json

inductive Cause where
  | valueExpected
  | nameExpected
  | colonExpected
  | commaExpected
  | extraData
  | unknownEscape
  | badUnicodeEscape
  | controlCharacter
  | unterminatedString
  | byteOrderMark
  deriving DecidableEq, Repr

def Cause.message : Cause → String
  | .valueExpected => "Expecting value"
  | .nameExpected => "Expecting property name enclosed in double quotes"
  | .colonExpected => "Expecting ':' delimiter"
  | .commaExpected => "Expecting ',' delimiter"
  | .extraData => "Extra data"
  | .unknownEscape => "Invalid \\escape"
  | .badUnicodeEscape => "Invalid \\uXXXX escape"
  | .controlCharacter => "Invalid control character at"
  | .unterminatedString => "Unterminated string starting at"
  | .byteOrderMark => "Unexpected UTF-8 BOM (decode using utf-8-sig)"

/-- A cause and the number of characters before its place; only a line feed ends
a line. -/
structure Error where
  cause : Cause
  line : Nat
  column : Nat
  offset : Nat
  deriving DecidableEq, Repr

/-- The error at the place that `left` characters of the text follow. -/
def Error.at (cause : Cause) (text : List Char) (left : Nat) : Error :=
  let before := text.take (text.length - left)
  let lastLine := before.reverse.takeWhile (· != '\n')
  { cause
    line := before.count '\n' + 1
    column := lastLine.length + 1
    offset := before.length }

def Error.message (e : Error) : String :=
  e.cause.message ++ ": line " ++ toString e.line ++ " column " ++ toString e.column ++
    " (char " ++ toString e.offset ++ ")"

/-- What a stack without levels left was needed for: the items of a list, the members of
an object, or a call. -/
inductive Descent where
  | list
  | object
  | call
  deriving DecidableEq, Repr

/-- What is said of a call varies beyond the part that all have in common. -/
def Descent.message : Descent → String
  | .list => "maximum recursion depth exceeded while decoding a JSON array from a unicode string"
  | .object => "maximum recursion depth exceeded while decoding a JSON object from a unicode string"
  | .call => "maximum recursion depth exceeded"

inductive Failure where
  | malformed (e : Error)
  | tooLong (digits : Nat)
  | tooDeep (need : Descent)
  deriving DecidableEq, Repr

end ServiceLease.Json
