import ServiceLease.Failure
import ServiceLease.Notice

/-! Operations on a state that may fail and that give notices. What an operation did to
the state and reported before it failed stays. -/
namespace ServiceLease

structure Report (σ α : Type) where
  result : Except Failure α
  state : σ
  notices : List Notice

def Action (σ α : Type) := σ → Report σ α

namespace Action

def andThen (m : Action σ α) (f : α → Action σ β) : Action σ β := fun s =>
  match (m s).result with
  | .error e => ⟨.error e, (m s).state, (m s).notices⟩
  | .ok a =>
    let r := f a (m s).state
    ⟨r.result, r.state, (m s).notices ++ r.notices⟩

instance : Monad (Action σ) where
  pure a := fun s => ⟨.ok a, s, []⟩
  bind := andThen

def ofExcept (r : Except Failure α) : Action σ α := fun s => ⟨r, s, []⟩

def fail (e : Failure) : Action σ α := ofExcept (.error e)

def state : Action σ σ := fun s => ⟨.ok s, s, []⟩

def update (f : σ → σ) : Action σ Unit := fun s => ⟨.ok (), f s, []⟩

/-- Gives a notice; one without a text cannot be given. -/
def note (n : Notice) : Action σ Unit := fun s =>
  if n.text?.isSome then ⟨.ok (), s, [n]⟩ else ⟨.error .integerUnwritable, s, []⟩

/-- Runs an operation on a state of its own, which is forgotten. -/
def within (t : τ) (m : Action τ α) : Action σ α := fun s => ⟨(m t).result, s, (m t).notices⟩

theorem pure_eq (a : α) (s : σ) : (pure a : Action σ α) s = ⟨.ok a, s, []⟩ := rfl

theorem bind_eq (m : Action σ α) (f : α → Action σ β) : m >>= f = m.andThen f := rfl

end Action

abbrev Logged (α : Type) := Action Unit α

end ServiceLease
