import ServiceLease.Action
import ServiceLease.Service.Config
import ServiceLease.Text.Line

/-! Catalogues of services: files in UTF-8 that hold a JSON list of service
descriptions. A catalogue is loaded as a whole or not at all. -/
namespace ServiceLease.Catalogue

/-- The entries of a catalogue. The names of an object and the characters of a text are
entries too, though no service can be read from one. -/
def entries : Value → Except Failure (List Value)
  | .list vs => .ok vs
  | .object ms => .ok (ms.map fun m => .text m.1)
  | .text s => .ok (s.toList.map fun c => .text (String.singleton c))
  | .broken t => .ok (t.codes.map fun n => .ofCodes [n])
  | v => .error (.notIterable v.kind)

def services (v : Value) : Except Failure (List Service) := do (← entries v).mapM Service.ofValue

/-- The levels that are left if a catalogue is loaded from the outermost level. -/
def outermost : Nat := 993

/-- The value in a file. Line ends are unified first, which the places of errors
show. -/
def document (octets : List UInt8) : Except Failure Value := do
  let chars ← (Text.Utf8.decode octets).mapError .undecodable
  (Json.readIn outermost (String.ofList (Text.unifyLineEnds chars))).mapError .json

def load (path : String) (file : Option (List UInt8)) : Logged (List Service) := do
  let all ← .ofExcept do
    match file with
    | none => .error (.fileMissing path)
    | some octets => services (← document octets)
  .note (.servicesLoaded all.length path)
  return all

end ServiceLease.Catalogue
