import ServiceLease.Action

/-! How operations that follow one another report. Each primitive operation, put before
another one, has an equation of its own. -/
namespace ServiceLease.Action

variable {α β σ τ : Type} (f : α → Action σ β) (s : σ)

@[simp] theorem ofExcept_ok_bind (a : α) : (ofExcept (.ok a) >>= f) s = f a s := rfl

@[simp] theorem state_bind (f : σ → Action σ β) : (state >>= f) s = f s s := rfl

@[simp] theorem update_bind (g : σ → σ) (f : Unit → Action σ β) : (update g >>= f) s = f () (g s) := rfl

theorem note_bind (n : Notice) (f : Unit → Action σ β) :
    (note n >>= f) s =
      if n.text?.isSome then ⟨(f () s).result, (f () s).state, n :: (f () s).notices⟩
      else ⟨.error .integerUnwritable, s, []⟩ := by
  by_cases written : n.text?.isSome <;> simp [bind_eq, andThen, note, written]

/-- An operation that was refused decides the whole. -/
theorem bind_of_error {m : Action σ α} {t : σ} (refused : m s = ⟨.error e, t, ns⟩) :
    (m >>= f) s = ⟨.error e, t, ns⟩ := by
  simp [bind_eq, andThen, refused]

/-- An operation that gave no notice is followed by the next in the state it left. -/
theorem bind_of_ok {m : Action σ α} {t : σ} (done : m s = ⟨.ok a, t, []⟩) : (m >>= f) s = f a t := by
  simp [bind_eq, andThen, done]

/-- Without a state, only the result of an operation matters to the next. -/
theorem result_bind (f : α → Logged β) {m : Logged α} (done : (m ()).result = .ok a) :
    ((m >>= f) ()).result = (f a ()).result := by
  simp [bind_eq, andThen, done]

end ServiceLease.Action
