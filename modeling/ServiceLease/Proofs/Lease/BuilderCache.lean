import ServiceLease.Proofs.Lease.BuilderHistory

/-! The lease that a builder holds is the one that its values make, whatever calls came before.
It is given out again until a value is stored, and then never again. -/
namespace ServiceLease.Builder

/-! What a builder holds, as keywords. -/

def keywords (b : Builder) : Members := b.fields.entries.map fun (f, v) => (f.label, v)

theorem lookup_label (b : Builder) (f : Field) : b.keywords.lookup f.label = some (b.fields.get f) := by
  cases f <;> rfl

/-- No field goes by its wire name. -/
theorem lookup_wireName (b : Builder) (f : Field) : b.keywords.lookup f.wireName = none := by
  cases f <;> rfl

theorem ofKeywords_keywords (b : Builder) : Lease.ofKeywords b.keywords = b.lease := by
  have given : (Fields.ofFn fun f => (b.keywords.lookup f.label).getD (.int f.initial)) = b.fields := by
    refine Fields.ext_get fun f => ?_
    rw [Fields.get_ofFn, lookup_label, Option.getD_some]
  simp only [Lease.ofKeywords, lookup_wireName, Option.isSome_none, Bool.false_eq_true, if_false]
  rw [given]
  rfl

/-! Runs. -/

def run : List Call → Builder → Builder
  | [], b => b
  | c :: rest, b => run rest (c.after b)

/-- Whether a call stores a value. A setter does, even one that was there already, unless it fails. -/
def Call.stores (c : Call) (b : Builder) : Bool :=
  match c with
  | .set _ _ => (c.perform b).result.isOk
  | .build => false

def stores : List Call → Builder → Bool
  | [], _ => false
  | c :: rest, b => c.stores b || stores rest (c.after b)

/-- The builders there are: a new one, one made from a lease, and what a call leaves of them. -/
inductive Reachable : Builder → Prop
  | fresh : Reachable fresh
  | ofLease (l : Lease) : Reachable (ofLease l)
  | after (c : Call) {b : Builder} (reached : Reachable b) : Reachable (c.after b)

/-- All that a call can leave: a builder with a value stored, the same builder, or one that now
holds the lease it did not have before. -/
theorem Call.after_cases (c : Call) (b : Builder) :
    (c.stores b = true ∧ ∃ f w, c.after b = store f w b) ∨
    (c.stores b = false ∧ c.after b = b) ∨
    (c.stores b = false ∧ ∃ l, b.latest = none ∧ b.lease = .ok l ∧ c.after b = keep l b) := by
  unfold Call.after
  rcases c.perform_cases b with
    ⟨f, v, w, rfl, -, done⟩ | ⟨built, rfl, -, done⟩ | ⟨l, rfl, empty, made, done⟩ | ⟨e, done⟩
  · refine .inl ⟨?_, f, w, ?_⟩
    · rw [stores, done]
      rfl
    · rw [done]
  · refine .inr (.inl ⟨rfl, ?_⟩)
    rw [done]
  · refine .inr (.inr ⟨rfl, l, empty, made, ?_⟩)
    rw [done]
  · refine .inr (.inl ⟨?_, ?_⟩)
    · cases c with
      | set f v =>
        rw [stores, done]
        rfl
      | build => rfl
    · rw [done]

theorem Call.after_build (b : Builder) : Call.build.after b = (Builder.build b).state := by
  rw [after, perform, Action.bind_eq, Action.andThen]
  cases (Builder.build b).result <;> rfl

theorem after_of_error {b : Builder} {c : Call} {e : Failure} (refused : (c.perform b).result = .error e) :
    c.after b = b := by
  unfold Call.after
  rcases c.perform_cases b with ⟨f, v, w, -, -, done⟩ | ⟨built, -, -, done⟩ | ⟨l, -, -, -, done⟩ | ⟨e, done⟩
  · rw [done] at refused
    cases refused
  · rw [done]
  · rw [done] at refused
    cases refused
  · rw [done]

/-! The latest lease is never stale. -/

/-- What a builder holds as its latest lease is the lease of its values, and it was made before
any that is still to come. -/
structure Coherent (b : Builder) : Prop where
  current : ∀ built, b.latest = some built → b.lease = .ok built.lease
  numbered : ∀ built, b.latest = some built → built.number < b.count

theorem coherent_of_empty {b : Builder} (empty : b.latest = none) : Coherent b := by
  constructor
  · intro built held
    rw [empty] at held
    cases held
  · intro built held
    rw [empty] at held
    cases held

theorem keep_coherent {b : Builder} {l : Lease} (made : b.lease = .ok l) : Coherent (keep l b) where
  current := by
    intro built held
    cases held
    exact made
  numbered := by
    intro built held
    cases held
    exact Nat.lt_succ_self b.count

theorem after_coherent {b : Builder} (coherent : Coherent b) (c : Call) : Coherent (c.after b) := by
  rcases c.after_cases b with ⟨-, f, w, left⟩ | ⟨-, left⟩ | ⟨-, l, -, made, left⟩
  · rw [left]
    exact coherent_of_empty rfl
  · rwa [left]
  · rw [left]
    exact keep_coherent made

theorem Reachable.coherent {b : Builder} (reached : Reachable b) : Coherent b := by
  induction reached with
  | fresh => exact coherent_of_empty rfl
  | ofLease l => exact coherent_of_empty rfl
  | after c _ ih => exact after_coherent ih c

/-- A build gives the lease of the values, or fails as making that lease fails. -/
theorem build_result {b : Builder} (coherent : Coherent b) : (build b).result.map Built.lease = b.lease := by
  rw [build_eq]
  cases held : b.latest with
  | some built => exact (coherent.current built held).symm
  | none => cases b.lease <;> rfl

theorem latest_of_built {b : Builder} {built : Built} (given : (build b).result = .ok built) :
    (build b).state.latest = some built := by
  rw [build_eq] at given ⊢
  cases held : b.latest with
  | some same =>
    simp only [held] at given ⊢
    cases given
    rfl
  | none =>
    cases made : b.lease with
    | ok l =>
      simp only [held, made] at given ⊢
      cases given
      rfl
    | error e =>
      simp only [held, made] at given
      cases given

theorem built_of_latest {b : Builder} {built : Built} (held : b.latest = some built) :
    (build b).result = .ok built := by
  rw [build_eq, held]

/-! Runs that store nothing. -/

/-- Nothing is left for a build to make: the lease is there, or the values make none. -/
def Settled (b : Builder) : Prop := b.latest = none → ∀ l, b.lease ≠ .ok l

theorem settled_of_built {b : Builder} {built : Built} (given : (build b).result = .ok built) :
    Settled (build b).state := by
  intro empty
  rw [latest_of_built given] at empty
  cases empty

theorem settled_of_error {b : Builder} {e : Failure} (refused : (build b).result = .error e) : Settled b := by
  intro empty l made
  rw [build_eq, empty, made] at refused
  cases refused

theorem after_settled {b : Builder} (settled : Settled b) {c : Call} (kept : c.stores b = false) : c.after b = b := by
  rcases c.after_cases b with ⟨stored, -⟩ | ⟨-, left⟩ | ⟨-, l, empty, made, -⟩
  · rw [stored] at kept
    cases kept
  · exact left
  · exact absurd made (settled empty l)

theorem run_settled {b : Builder} (settled : Settled b) {calls : List Call} (kept : stores calls b = false) :
    run calls b = b := by
  induction calls with
  | nil => rfl
  | cons c rest ih =>
    obtain ⟨first, others⟩ := Bool.or_eq_false_iff.1 kept
    have same := after_settled settled first
    rw [same] at others
    rw [run, same]
    exact ih others

theorem built_again {b : Builder} {calls : List Call} {first second : Built} (given : (build b).result = .ok first)
    (again : (build (run calls (build b).state)).result = .ok second) (kept : stores calls (build b).state = false) :
    first = second := by
  rw [run_settled (settled_of_built given) kept, built_of_latest (latest_of_built given)] at again
  cases again
  rfl

/-! Runs that store a value. -/

/-- Every lease that is still to be given out has at least this number. -/
structure From (n : Nat) (b : Builder) : Prop where
  next : n ≤ b.count
  latest : ∀ built, b.latest = some built → n ≤ built.number

theorem from_store {n : Nat} {b : Builder} (next : n ≤ b.count) (f : Field) (w : Value) : From n (store f w b) where
  next := next
  latest := by
    intro built held
    cases held

theorem from_keep {n : Nat} {b : Builder} (next : n ≤ b.count) (l : Lease) : From n (keep l b) where
  next := Nat.le_succ_of_le next
  latest := by
    intro built held
    cases held
    exact next

theorem from_after {n : Nat} {b : Builder} (later : From n b) (c : Call) : From n (c.after b) := by
  rcases c.after_cases b with ⟨-, f, w, left⟩ | ⟨-, left⟩ | ⟨-, l, -, -, left⟩
  · rw [left]
    exact from_store later.next f w
  · rwa [left]
  · rw [left]
    exact from_keep later.next l

theorem from_run {n : Nat} {b : Builder} (later : From n b) (calls : List Call) : From n (run calls b) := by
  induction calls generalizing b with
  | nil => exact later
  | cons c rest ih => exact ih (from_after later c)

theorem count_le_after (c : Call) (b : Builder) : b.count ≤ (c.after b).count := by
  rcases c.after_cases b with ⟨-, f, w, left⟩ | ⟨-, left⟩ | ⟨-, l, -, -, left⟩
  · rw [left]
    exact Nat.le_refl b.count
  · exact Nat.le_of_eq (congrArg count left.symm)
  · rw [left]
    exact Nat.le_succ b.count

/-- Storing a value puts an end to the leases before. What comes first in the run may still
give them out. -/
theorem from_run_of_stores {n : Nat} {b : Builder} (next : n ≤ b.count) {calls : List Call}
    (stored : stores calls b = true) : From n (run calls b) := by
  induction calls generalizing b with
  | nil => cases stored
  | cons c rest ih =>
    rcases c.after_cases b with ⟨-, f, w, left⟩ | ⟨kept, -⟩ | ⟨kept, -⟩
    · have later : From n (c.after b) := by
        rw [left]
        exact from_store next f w
      exact from_run later rest
    all_goals
      rw [stores, kept, Bool.false_or] at stored
      exact ih (Nat.le_trans next (count_le_after c b)) stored

theorem le_number {n : Nat} {b : Builder} (later : From n b) {built : Built} (given : (build b).result = .ok built) :
    n ≤ built.number := by
  have left := from_after later .build
  rw [Call.after_build] at left
  exact left.latest built (latest_of_built given)

/-- A lease is given out again exactly if no value was stored since. -/
theorem same_number_iff {b : Builder} (coherent : Coherent b) {calls : List Call} {first second : Built}
    (given : (build b).result = .ok first) (again : (build (run calls (build b).state)).result = .ok second) :
    first.number = second.number ↔ stores calls (build b).state = false := by
  have held := latest_of_built given
  have left := after_coherent coherent .build
  rw [Call.after_build] at left
  constructor
  · intro same
    have old : first.number < (build b).state.count := left.numbered first held
    cases stored : stores calls (build b).state with
    | false => rfl
    | true =>
      have new := le_number (from_run_of_stores (Nat.le_refl (build b).state.count) stored) again
      omega
  · intro kept
    rw [built_again given again kept]

/-! All of it together. -/

/-- Whatever was called on a builder before, a build gives what the keywords of its values give, lease
or issues. Two builds give one and the same lease exactly if no value was stored between them. A
call that fails changes nothing, and a build that fails does so again until a value is stored. -/
theorem latest_lease_current (b : Builder) (reached : Reachable b) :
    (build b).result.map Built.lease = Lease.ofKeywords b.keywords ∧
    (∀ calls first second, (build b).result = .ok first → (build (run calls (build b).state)).result = .ok second →
      (first.number = second.number ↔ stores calls (build b).state = false) ∧
      (stores calls (build b).state = false → first = second)) ∧
    (∀ (c : Call) e, (c.perform b).result = .error e → c.after b = b) ∧
    ∀ calls e, (build b).result = .error e → stores calls b = false → (build (run calls b)).result = .error e := by
  have coherent := reached.coherent
  refine ⟨?_, ?_, fun c e refused => after_of_error refused, ?_⟩
  · rw [ofKeywords_keywords]
    exact build_result coherent
  · intro calls first second given again
    exact ⟨same_number_iff coherent given again, built_again given again⟩
  · intro calls e refused kept
    rw [run_settled (settled_of_error refused) kept]
    exact refused

def broken : Builder := (Call.set .eviction (.text "never")).after fresh

def mended : Builder := (Call.set .eviction (.text "7")).after broken

def idle : List Call := [.build, .set .duration (.list []), .build, .set .renewalInterval (.text "5")]

def rewritten : List Call := idle ++ [.set .duration (.int 90)]

theorem latest_lease_current_broken :
    let issue : Failure := .rejected .lease [⟨["eviction_timestamp"], .unreadableInteger⟩]
    let lease : Lease := ⟨30, 90, 0, 0, 7, 0⟩
    Reachable broken ∧ (build broken).result = .error issue ∧ stores idle broken = false ∧
    (build (run idle broken)).result = .error issue ∧
    Reachable mended ∧ (build mended).result = .ok ⟨0, lease⟩ ∧
    (build (run idle (build mended).state)).result = .ok ⟨0, lease⟩ ∧ stores idle (build mended).state = false ∧
    (build (run rewritten (build mended).state)).result = .ok ⟨1, lease⟩ ∧
    stores rewritten (build mended).state = true := by
  intro issue lease
  have start : Reachable broken := .after _ .fresh
  have refused : (build broken).result = .error issue := rfl
  have kept : stores idle broken = false := rfl
  have repaired : Reachable mended := .after _ start
  have first : (build mended).result = .ok ⟨0, lease⟩ := rfl
  have second : (build (run idle (build mended).state)).result = .ok ⟨0, lease⟩ := rfl
  have third : (build (run rewritten (build mended).state)).result = .ok ⟨1, lease⟩ := rfl
  obtain ⟨-, -, -, fails⟩ := latest_lease_current broken start
  obtain ⟨-, identity, -⟩ := latest_lease_current mended repaired
  have same := (identity idle _ _ first second).1.1 rfl
  have other : stores rewritten (build mended).state = true := by
    apply eq_true_of_ne_false
    intro none
    have number := (identity rewritten _ _ first third).1.2 none
    cases number
  exact ⟨start, refused, kept, fails idle issue refused kept, repaired, first, second, same, third, other⟩

end ServiceLease.Builder
