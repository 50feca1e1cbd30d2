import ServiceLease.Value

/-! Members of an object by their names. -/
namespace ServiceLease

section

variable {α : Type} {entries : List (String × α)}

theorem lookup_cons_eq_ite (first : String) (a : α) (rest : List (String × α)) (name : String) :
    ((first, a) :: rest).lookup name = if name = first then some a else rest.lookup name := by
  rw [List.lookup_cons]
  by_cases same : name = first
  · rw [if_pos same, beq_iff_eq.2 same]
  · rw [if_neg same, beq_eq_false_iff_ne.2 same]

/-- Where no name stands twice, a name is found with whatever stands beside it. -/
theorem lookup_eq_some_iff_mem (once : (entries.map Prod.fst).Nodup) {name : String} {a : α} :
    entries.lookup name = some a ↔ (name, a) ∈ entries := by
  constructor
  · intro found
    obtain ⟨before, after, rfl, -⟩ := List.lookup_eq_some_iff.1 found
    simp
  · intro member
    obtain ⟨before, after, rfl⟩ := List.append_of_mem member
    refine List.lookup_eq_some_iff.2 ⟨before, after, rfl, fun earlier inside => ?_⟩
    simp only [List.map_append, List.map_cons, List.nodup_append] at once
    have apart := once.2.2 earlier.1 (List.mem_map_of_mem inside) name List.mem_cons_self
    simpa using Ne.symm apart

/-- From the end, what is found under a name is the last entry with the name. -/
theorem lookup_reverse_eq_some_iff {name : String} {a : α} :
    entries.reverse.lookup name = some a ↔
      ∃ before after, entries = before ++ (name, a) :: after ∧ ∀ later ∈ after, later.1 ≠ name := by
  rw [List.lookup_eq_some_iff]
  constructor
  · rintro ⟨after, before, split, other⟩
    refine ⟨before.reverse, after.reverse, ?_, fun later member => ?_⟩
    · rw [← List.reverse_reverse entries, split]
      simp
    · exact Ne.symm (bne_iff_ne.1 (other later (List.mem_reverse.1 member)))
  · rintro ⟨before, after, rfl, other⟩
    refine ⟨after.reverse, before.reverse, by simp, fun later member => ?_⟩
    exact bne_iff_ne.2 (Ne.symm (other later (List.mem_reverse.1 member)))

theorem lookup_reverse_eq_none_iff {name : String} :
    entries.reverse.lookup name = none ↔ ∀ entry ∈ entries, entry.1 ≠ name := by
  simp only [List.lookup_eq_none_iff, List.mem_reverse, bne_iff_ne, ne_comm]

theorem lookup_of_perm (once : (entries.map Prod.fst).Nodup) {other : List (String × α)}
    (same : other.Perm entries) (name : String) : other.lookup name = entries.lookup name := by
  have otherOnce : (other.map Prod.fst).Nodup := (same.map Prod.fst).nodup_iff.2 once
  refine Option.ext fun a => ?_
  rw [lookup_eq_some_iff_mem otherOnce, lookup_eq_some_iff_mem once, same.mem_iff]

end

namespace Members

theorem put_of_new {ms : Members} {name : String} (new : name ∉ ms.map Prod.fst) (v : Value) :
    ms.put name v = ms ++ [(name, v)] := by
  induction ms with
  | nil => rfl
  | cons m rest ih =>
    simp only [List.map_cons, List.mem_cons, not_or] at new
    rw [put, if_neg (Ne.symm new.1), ih new.2, List.cons_append]

/-- A value that is put under one name is found under that name alone. -/
theorem lookup_put (ms : Members) (name : String) (v : Value) (other : String) :
    (ms.put name v).lookup other = if other = name then some v else ms.lookup other := by
  induction ms with
  | nil => rw [put, lookup_cons_eq_ite]
  | cons m rest ih =>
    obtain ⟨first, w⟩ := m
    rw [put, lookup_cons_eq_ite]
    by_cases here : first = name
    · subst here
      rw [if_pos rfl, lookup_cons_eq_ite]
      by_cases same : other = first
      · rw [if_pos same, if_pos same]
      · rw [if_neg same, if_neg same, if_neg same]
    · rw [if_neg here, lookup_cons_eq_ite, ih]
      by_cases same : other = first
      · subst same
        rw [if_pos rfl, if_neg here, if_pos rfl]
      · rw [if_neg same, if_neg same]

/-- A member among others is found under its name, if none before it is. -/
theorem lookup_middle (before after : Members) (name : String) (v : Value) (other : String) :
    (before ++ (name, v) :: after).lookup other =
      (before.lookup other).or (if other = name then some v else after.lookup other) := by
  rw [List.lookup_append, lookup_cons_eq_ite]

/-! Members under other names. -/

/-- Two objects that differ in nothing under the given names: members under other names are added or left out, and
the members are put in another order. -/
inductive Retouched (names : List String) : Members → Members → Prop where
  | added {name : String} (v : Value) (before after : Members) : name ∉ names →
      Retouched names (before ++ after) (before ++ (name, v) :: after)
  | reordered {a b : Members} : (a.map Prod.fst).Nodup → b.Perm a → Retouched names a b
  | symm {a b : Members} : Retouched names a b → Retouched names b a
  | trans {a b c : Members} : Retouched names a b → Retouched names b c → Retouched names a c

theorem lookup_of_retouched {names : List String} {a b : Members} (retouched : Retouched names a b) {name : String}
    (known : name ∈ names) : a.lookup name = b.lookup name := by
  induction retouched with
  | @added other v before after unknown =>
    have apart : name ≠ other := fun same => unknown (same ▸ known)
    rw [lookup_middle, if_neg apart, List.lookup_append]
  | reordered once same => exact (lookup_of_perm once same name).symm
  | symm _ ih => exact ih.symm
  | trans _ _ first second => exact first.trans second

def known (names : List String) (ms : Members) : Members := ms.filter (·.1 ∈ names)

theorem known_nodup {names : List String} {ms : Members} (once : (ms.map Prod.fst).Nodup) :
    ((known names ms).map Prod.fst).Nodup :=
  once.sublist (List.filter_sublist.map _)

/-- All other members can be left out, one after the other. -/
theorem retouched_known {names : List String} (before ms : Members) (once : ((before ++ ms).map Prod.fst).Nodup) :
    Retouched names (before ++ ms) (before ++ known names ms) := by
  induction ms generalizing before with
  | nil => exact .reordered once (.refl _)
  | cons m rest ih =>
    obtain ⟨name, v⟩ := m
    by_cases read : name ∈ names
    · have kept : known names ((name, v) :: rest) = (name, v) :: known names rest := by simp [known, read]
      have later := ih (before ++ [(name, v)]) (by simpa using once)
      rwa [List.append_assoc, List.append_assoc, List.singleton_append, List.singleton_append, ← kept] at later
    · have left : known names ((name, v) :: rest) = known names rest := by simp [known, read]
      have fewer : ((before ++ rest).map Prod.fst).Nodup :=
        once.sublist (((List.sublist_cons_self _ rest).append_left before).map _)
      rw [left]
      exact .trans (.symm (.added v before rest read)) (ih before fewer)

/-- Objects that agree under the names differ in nothing else than that. -/
theorem retouched_iff {names : List String} {a b : Members} (once : (a.map Prod.fst).Nodup)
    (once' : (b.map Prod.fst).Nodup) : Retouched names a b ↔ ∀ name ∈ names, a.lookup name = b.lookup name := by
  refine ⟨fun retouched name read => lookup_of_retouched retouched read, fun same => ?_⟩
  have apart {ms : Members} (named : (ms.map Prod.fst).Nodup) : ms.Nodup :=
    List.Pairwise.of_map Prod.fst (fun _ _ other same => other (congrArg _ same)) named
  have reordered : (known names b).Perm (known names a) := by
    rw [List.perm_ext_iff_of_nodup (apart (known_nodup once')) (apart (known_nodup once))]
    rintro ⟨name, v⟩
    simp only [known, List.mem_filter, decide_eq_true_eq]
    refine and_congr_left fun read => ?_
    rw [← lookup_eq_some_iff_mem once', ← lookup_eq_some_iff_mem once, same name read]
  have first : Retouched names a (known names a) := retouched_known [] a once
  have last : Retouched names b (known names b) := retouched_known [] b once'
  exact .trans first (.trans (.reordered (known_nodup once) reordered) (.symm last))

end Members

end ServiceLease
