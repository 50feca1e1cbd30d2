import ServiceLease.Xml.Namespace
import ServiceLease.Xml.Value

/-! What a start tag opens: attributes with their values and defaults, the namespaces it
binds, and the full names that follow from them. -/
namespace ServiceLease.Xml

/-- Attributes that have a value but no full name yet, and what came with them. -/
structure Binding where
  scope : Scope
  spent : Nat
  values : List (Written × String)

namespace Binding

def add (name : Written) (value : String) (b : Binding) : Except Cause Binding :=
  match name.declares? with
  | some qualifier => (b.scope.bind qualifier value).map fun scope => { b with scope }
  | none => .ok { b with values := b.values ++ [(name, value)] }

/-- Takes in the attributes of a tag that begins at `start`; `seen` are the names that
came before. -/
def addWritten (c : Context) (element : String) (start : List Char) (seen : List String) :
    List RawAttribute → Binding → Except Fault Binding
  | [], b => .ok b
  | a :: rest, b =>
    if seen.contains a.name.text then .error ⟨.duplicateAttribute, a.start.length⟩
    else
      match Value.resolve c (c.dtd.tokenizes element a.name) a.value b.spent with
      | .error ⟨cause, some r⟩ => .error ⟨cause, r.length + a.after.length⟩
      | .error ⟨cause, none⟩ => .error ⟨cause, start.length⟩
      | .ok (value, spent) =>
        match add a.name (String.ofList value) { b with spent } with
        | .error cause => .error ⟨cause, start.length⟩
        | .ok b => addWritten c element start (a.name.text :: seen) rest b

def addDefaults (given : List String) : List AttributeRule → Binding → Except Cause Binding
  | [], b => .ok b
  | r :: rest, b =>
    match r.standard with
    | none => addDefaults given rest b
    | some value =>
      if given.contains r.name.text then addDefaults given rest b
      else do addDefaults given rest (← add r.name (String.ofList value) b)

end Binding

/-- The attributes by their full names. Two of them may agree only without a prefix,
where they were told apart before. -/
def nameAttributes (s : Scope) (seen : List Name) : List (Written × String) → Except Cause (List Attribute)
  | [] => .ok []
  | (w, value) :: rest =>
    match w.attributeName? s with
    | none => .error .unboundPrefix
    | some name =>
      if w.qualifier.isSome && seen.contains name then .error .duplicateAttribute
      else do
        let seen := if w.qualifier.isSome then name :: seen else seen
        return ⟨name, value⟩ :: (← nameAttributes s seen rest)

structure Opening where
  written : String
  name : Name
  attributes : List Attribute
  scope : Scope
  spent : Nat

def Opening.ofTag (c : Context) (start : List Char) (scope : Scope) (spent : Nat) (t : Tag) :
    Except Fault Opening := do
  let here (cause : Cause) : Fault := ⟨cause, start.length⟩
  let element := t.name.text
  let given ← Binding.addWritten c element start [] t.attributes ⟨scope, spent, []⟩
  let all ← (Binding.addDefaults (t.attributes.map (·.name.text)) (c.dtd.rulesOf element) given).mapError here
  let attributes ← (nameAttributes all.scope [] all.values).mapError here
  match t.name.elementName? all.scope with
  | none => .error (here .unboundPrefix)
  | some name => return ⟨element, name, attributes, all.scope, all.spent⟩

end ServiceLease.Xml
