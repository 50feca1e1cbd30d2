import ServiceLease.Failure

/-! Operations that may fail, one after the other. A sequence gives a result only if every
part of it does. -/
namespace ServiceLease

variable {α β ε ε' : Type}

theorem bind_eq_ok_iff {m : Except ε α} {f : α → Except ε β} {b : β} :
    m >>= f = .ok b ↔ ∃ a, m = .ok a ∧ f a = .ok b := by
  cases m with
  | error e => simp [bind, Except.bind]
  | ok a => simp [bind, Except.bind]

theorem mapError_eq_ok_iff {m : Except ε α} {g : ε → ε'} {a : α} : m.mapError g = .ok a ↔ m = .ok a := by
  cases m with
  | error e => constructor <;> rintro ⟨⟩
  | ok b =>
    constructor <;>
    · rintro ⟨⟩
      rfl

theorem toOption_eq_some_iff {m : Except ε α} {a : α} : m.toOption = some a ↔ m = .ok a := by
  cases m with
  | error e => simp [Except.toOption]
  | ok b => simp [Except.toOption]

/-- A list is accepted item by item. -/
theorem mapM_eq_ok_iff {f : α → Except ε β} {xs : List α} {ys : List β} :
    xs.mapM f = .ok ys ↔ xs.map f = ys.map .ok := by
  induction xs generalizing ys with
  | nil => cases ys <;> simp [pure, Except.pure]
  | cons x xs ih =>
    rw [List.mapM_cons, bind_eq_ok_iff]
    constructor
    · rintro ⟨y, first, others⟩
      obtain ⟨tail, rest, whole⟩ := bind_eq_ok_iff.1 others
      cases whole
      rw [List.map_cons, List.map_cons, first, ih.1 rest]
    · intro same
      cases ys with
      | nil => cases same
      | cons y ys =>
        obtain ⟨first, rest⟩ := List.cons.inj same
        exact ⟨y, first, bind_eq_ok_iff.2 ⟨ys, ih.2 rest, rfl⟩⟩

theorem length_of_mapM {f : α → Except ε β} {xs : List α} {ys : List β} (done : xs.mapM f = .ok ys) :
    ys.length = xs.length := by
  have same := congrArg List.length (mapM_eq_ok_iff.1 done)
  rw [List.length_map, List.length_map] at same
  exact same.symm

/-- An item and what was made of it stand in the same place. -/
theorem getElem?_of_mapM {f : α → Except ε β} {xs : List α} {ys : List β} (done : xs.mapM f = .ok ys) {i : Nat} {x : α}
    (found : xs[i]? = some x) : ∃ y, ys[i]? = some y ∧ f x = .ok y := by
  have place : (xs.map f)[i]? = (ys.map Except.ok)[i]? := by rw [mapM_eq_ok_iff.1 done]
  rw [List.getElem?_map, List.getElem?_map, found, Option.map_some] at place
  obtain ⟨y, inside, same⟩ := Option.map_eq_some_iff.1 place.symm
  exact ⟨y, inside, same.symm⟩

theorem exists_mapM_iff {f : α → Except ε β} {xs : List α} :
    (∃ ys, xs.mapM f = .ok ys) ↔ ∀ x ∈ xs, ∃ y, f x = .ok y := by
  simp only [mapM_eq_ok_iff]
  induction xs with
  | nil =>
    constructor
    · simp
    · exact fun _ => ⟨[], rfl⟩
  | cons x xs ih =>
    rw [List.forall_mem_cons, ← ih]
    constructor
    · rintro ⟨ys, same⟩
      cases ys with
      | nil => cases same
      | cons y ys =>
        obtain ⟨first, rest⟩ := List.cons.inj same
        exact ⟨⟨y, first⟩, ys, rest⟩
    · rintro ⟨⟨y, first⟩, ys, rest⟩
      exact ⟨y :: ys, by rw [List.map_cons, List.map_cons, first, rest]⟩

/-- A list is refused for the first of its items that is. -/
theorem mapM_eq_error_iff {f : α → Except ε β} {xs : List α} {e : ε} :
    xs.mapM f = .error e ↔
      ∃ before x after, xs = before ++ x :: after ∧ (∀ y ∈ before, ∃ b, f y = .ok b) ∧ f x = .error e := by
  constructor
  · intro refused
    induction xs with
    | nil => cases refused
    | cons x xs ih =>
      rw [List.mapM_cons] at refused
      cases first : f x with
      | error e' =>
        rw [first] at refused
        cases refused
        exact ⟨[], x, xs, rfl, by simp, first⟩
      | ok b =>
        rw [first] at refused
        cases rest : xs.mapM f with
        | ok bs =>
          simp [rest, bind, Except.bind, pure, Except.pure] at refused
        | error e' =>
          simp only [rest, bind, Except.bind, Except.error.injEq] at refused
          subst refused
          obtain ⟨before, y, after, rfl, accepted, stopped⟩ := ih rest
          exact ⟨x :: before, y, after, rfl, List.forall_mem_cons.2 ⟨⟨b, first⟩, accepted⟩, stopped⟩
  · rintro ⟨before, x, after, rfl, accepted, stopped⟩
    induction before with
    | nil =>
      rw [List.nil_append, List.mapM_cons, stopped]
      rfl
    | cons y before ih =>
      obtain ⟨⟨b, first⟩, others⟩ := List.forall_mem_cons.1 accepted
      rw [List.cons_append, List.mapM_cons, first]
      simp only [bind, Except.bind, ih others]

/-- What was made from a list was made from its items. -/
theorem exists_of_mem_mapM {f : α → Except ε β} {xs : List α} {ys : List β} (done : xs.mapM f = .ok ys)
    {y : β} (member : y ∈ ys) : ∃ x ∈ xs, f x = .ok y := by
  have accepted : Except.ok y ∈ xs.map f := by
    rw [mapM_eq_ok_iff.1 done]
    exact List.mem_map_of_mem member
  exact List.mem_map.1 accepted

end ServiceLease
