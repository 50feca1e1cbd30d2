import ServiceLease.Lease.Basic
import ServiceLease.Number.Decimal
import ServiceLease.Value

/-! What operations report beside their result. -/
namespace ServiceLease

/-- The text of a value in a notice. An integer beyond the digit limit has none; lists
and objects occur in no notice. -/
def Value.display? : Value → Option String
  | .null => some "None"
  | .bool b => some (if b then "True" else "False")
  | .int n => if Decimal.fits n then some (Decimal.text n) else none
  | .float x => some x.text
  | .text s => some s
  | .broken t => some t.text
  | .list _ => none
  | .object _ => none

inductive Notice where
  /-- A setting gave way to its standard value. -/
  | settingReplaced (field : Field) (given : Value) (standard : Int)
  | leaseReplaced (transition : Transition) (timestamp : Value)
  | addressUnknown (host : String)
  | documentBuilt (service : String) (document : String)
  | servicesLoaded (count : Nat) (path : String)

inductive Severity where
  | debug
  | info
  | warning
  deriving DecidableEq, Repr

def loopback : String := "127.0.0.1"

namespace Notice

def severity : Notice → Severity
  | .addressUnknown _ => .warning
  | .servicesLoaded _ _ => .info
  | _ => .debug

def text? : Notice → Option String
  | .settingReplaced field given standard =>
    given.display?.map fun shown =>
      field.wireName ++ " " ++ shown ++ " ist ungültig, verwende " ++ Decimal.text standard ++ "."
  | .leaseReplaced transition timestamp =>
    timestamp.display?.map fun shown =>
      "Lease aktualisiert (" ++ transition.spelling ++ "=" ++ shown ++ ")."
  | .addressUnknown host =>
    some ("IP-Adresse für Hostname '" ++ host ++ "' konnte nicht ermittelt werden. Verwende '" ++
      loopback ++ "'.")
  | .documentBuilt service document => some ("[" ++ service ++ "] XML-Payload:\n" ++ document)
  | .servicesLoaded count path => some (toString count ++ " Services aus " ++ path ++ " geladen.")

end Notice

end ServiceLease
