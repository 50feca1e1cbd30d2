import ServiceLease.Complaint
import ServiceLease.Json.Error
import ServiceLease.Number.Decimal
import ServiceLease.Text.Quoted
import ServiceLease.Text.Utf8
import ServiceLease.Value
import ServiceLease.Xml.Error

/-! Everything that can keep an operation from giving a result, by cause, and the
wording of each. -/
namespace ServiceLease

inductive Failure where
  | rejected (model : Model) (issues : List Issue)
  | json (e : Json.Failure)
  | integerUnwritable
  | xml (e : Xml.Error)
  | badElementText (tag : String) (text : List Char)
  | leaseMissing (root : String)
  | notAnObject (kind : Kind)
  | incomparable (kind : Kind)
  | notIterable (kind : Kind)
  | fileMissing (path : String)
  | undecodable (e : Text.Utf8.Error)
  | clockInfinite
  | clockNotANumber
  deriving DecidableEq, Repr

namespace Failure

def limitText : String :=
  "Exceeds the limit (" ++ toString Decimal.digitLimit ++ " digits) for integer string conversion"

def remedyText : String := "; use sys.set_int_max_str_digits() to increase the limit"

def mark (s : String) : String := String.ofList (Text.quoted s.toList)

def message : Failure → String
  | .rejected model issues =>
    toString issues.length ++ (if issues.length = 1 then " validation error" else " validation errors") ++
      " for " ++ model.spelling
  | .json (.malformed e) => e.message
  | .json (.tooLong digits) => limitText ++ ": value has " ++ toString digits ++ " digits" ++ remedyText
  | .json (.tooDeep need) => need.message
  | .integerUnwritable => limitText ++ remedyText
  | .xml e => e.message
  | .badElementText tag text =>
    "Ungültiger Wert für <" ++ tag ++ ">: " ++ String.ofList (Text.quoted text)
  | .leaseMissing root => "Kein <leaseInfo>-Element in <" ++ root ++ "> gefunden"
  | .notAnObject kind => mark kind.spelling ++ " object has no attribute " ++ mark "get"
  | .incomparable kind =>
    mark "<=" ++ " not supported between instances of " ++ mark kind.spelling ++ " and " ++ mark "int"
  | .notIterable kind => mark kind.spelling ++ " object is not iterable"
  | .fileMissing path => "[Errno 2] No such file or directory: " ++ mark path
  | .undecodable e => e.message
  | .clockInfinite => "cannot convert float infinity to integer"
  | .clockNotANumber => "cannot convert float NaN to integer"

end Failure

end ServiceLease
