import ServiceLease.Number.Shortest
import ServiceLease.Text.Surrogate

/-! Untyped data as it arrives in wire forms and as builders hold it before it is
checked. Integers have any size; the members of an object keep their order. -/
namespace ServiceLease

inductive Value where
  | null
  | bool (b : Bool)
  | int (n : Int)
  | float (x : Binary64)
  | text (s : String)
  | broken (t : Text.Broken)
  | list (items : List Value)
  | object (members : List (String × Value))

inductive Kind where
  | null | bool | int | float | text | list | object
  deriving DecidableEq, Repr

def Kind.spelling : Kind → String
  | .null => "NoneType"
  | .bool => "bool"
  | .int => "int"
  | .float => "float"
  | .text => "str"
  | .list => "list"
  | .object => "dict"

namespace Value

def kind : Value → Kind
  | .null => .null
  | .bool _ => .bool
  | .int _ => .int
  | .float _ => .float
  | .text _ => .text
  | .broken _ => .text
  | .list _ => .list
  | .object _ => .object

def ofCodes (codes : List Nat) : Value :=
  if unpaired : codes.any Text.isSurrogate = true then .broken ⟨codes, unpaired⟩
  else .text (Text.replaced codes)

/-- A value, unless it is null or absent. -/
def present? : Option Value → Option Value
  | some .null => none
  | v => v

@[simp] theorem kind_ofCodes (codes : List Nat) : (ofCodes codes).kind = .text := by
  unfold ofCodes
  split <;> rfl

@[simp] theorem present?_none : present? none = none := rfl
@[simp] theorem present?_null : present? (some .null) = none := rfl

theorem present?_eq_some_iff {v : Option Value} {w : Value} :
    present? v = some w ↔ v = some w ∧ w ≠ .null := by
  cases v with
  | none => simp
  | some v => cases v <;> simp [present?] <;> rintro rfl <;> simp

end Value

/-- The members of an object, each name once. -/
abbrev Members := List (String × Value)

namespace Members

/-- Gives a member a value: a new name goes last, a known one keeps its place. -/
def put (name : String) (v : Value) : Members → Members
  | [] => [(name, v)]
  | (n, w) :: rest => if n = name then (n, v) :: rest else (n, w) :: put name v rest

def find? (ms : Members) (name : String) : Option Value := Value.present? (ms.lookup name)

end Members

end ServiceLease
