/-! What is wrong with data that should describe one of the models, as a list of
places in the data with a complaint about each. -/
namespace ServiceLease

inductive Model where
  | lease
  | settings
  | service
  deriving DecidableEq, Repr

def Model.spelling : Model → String
  | .lease => "LeaseInfo"
  | .settings => "LeaseConfig"
  | .service => "ClientConfig"

inductive Complaint where
  | missing
  | notText
  | notUnicode
  | notInteger
  | unreadableInteger
  | oversizedInteger
  | fractional
  | notFinite
  | notFlag
  | unreadableFlag
  | notRecord (model : Model)
  | frozen
  deriving DecidableEq, Repr

namespace Complaint

def code : Complaint → String
  | .missing => "missing"
  | .notText => "string_type"
  | .notUnicode => "string_unicode"
  | .notInteger => "int_type"
  | .unreadableInteger => "int_parsing"
  | .oversizedInteger => "int_parsing_size"
  | .fractional => "int_from_float"
  | .notFinite => "finite_number"
  | .notFlag => "bool_type"
  | .unreadableFlag => "bool_parsing"
  | .notRecord _ => "model_type"
  | .frozen => "frozen_instance"

def message : Complaint → String
  | .missing => "Field required"
  | .notText => "Input should be a valid string"
  | .notUnicode => "Input should be a valid string, unable to parse raw data as a unicode string"
  | .notInteger => "Input should be a valid integer"
  | .unreadableInteger => "Input should be a valid integer, unable to parse string as an integer"
  | .oversizedInteger => "Unable to parse input string as an integer, exceeded maximum size"
  | .fractional => "Input should be a valid integer, got a number with a fractional part"
  | .notFinite => "Input should be a finite number"
  | .notFlag => "Input should be a valid boolean"
  | .unreadableFlag => "Input should be a valid boolean, unable to interpret input"
  | .notRecord model => "Input should be a valid dictionary or instance of " ++ model.spelling
  | .frozen => "Instance is frozen"

end Complaint

structure Issue where
  path : List String
  complaint : Complaint
  deriving DecidableEq, Repr

def Issue.under (name : String) (i : Issue) : Issue := { i with path := name :: i.path }

/-- A checked value, or everything that is wrong with it. -/
inductive Checked (α : Type) where
  | valid (a : α)
  | invalid (issues : List Issue)
  deriving DecidableEq, Repr

namespace Checked

/-- Applies a checked function; the issues of both sides are kept, in order. -/
def apply : Checked (α → β) → (Unit → Checked α) → Checked β
  | .valid f, x => match x () with
    | .valid a => .valid (f a)
    | .invalid issues => .invalid issues
  | .invalid issues, x => match x () with
    | .valid _ => .invalid issues
    | .invalid more => .invalid (issues ++ more)

instance : Applicative Checked where
  pure := .valid
  seq := apply

def issues : Checked α → List Issue
  | .valid _ => []
  | .invalid issues => issues

def named (name : String) : Except Complaint α → Checked α
  | .ok a => .valid a
  | .error complaint => .invalid [⟨[name], complaint⟩]

def under (name : String) : Checked α → Checked α
  | .valid a => .valid a
  | .invalid issues => .invalid (issues.map (·.under name))

@[simp] theorem issues_pure (a : α) : (pure a : Checked α).issues = [] := rfl

theorem issues_seq (f : Checked (α → β)) (x : Checked α) :
    (f <*> x).issues = f.issues ++ x.issues := by
  cases f <;> cases x <;> simp [Seq.seq, apply, issues]

end Checked

end ServiceLease
