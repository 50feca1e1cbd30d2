import ServiceLease.Proofs.Registration.Entry

/-! Runs of calls on one entry. Each transition owns one field, and what that field holds
after a run is the last time that was recorded there. -/
namespace ServiceLease.Entry

structure Call where
  transition : Transition
  clock : Clock
  time : Value

namespace Call

def perform (c : Call) : Action Entry Lease := record c.clock c.transition c.time

def timestamp? (c : Call) : Option Int := Entry.timestamp? c.clock c.time

def writable (c : Call) : Bool :=
  match c.clock.orNow c.time with
  | .ok (.int n) => Decimal.fits n
  | _ => true

theorem fits_of_writable {c : Call} (writable : c.writable = true) {n : Int}
    (now : c.clock.orNow c.time = .ok (.int n)) : Decimal.fits n = true := by
  simpa [Call.writable, now] using writable

end Call

structure Step where
  call : Call
  before : Entry

namespace Step

def result (s : Step) : Except Failure Lease := (s.call.perform s.before).result

def after (s : Step) : Entry := (s.call.perform s.before).state

/-- The time that a step records for a transition; a call that fails records none. -/
def recorded? (t : Transition) (s : Step) : Option Int :=
  match s.result with
  | .ok _ => if s.call.transition = t then s.call.timestamp? else none
  | .error _ => none

end Step

def steps : List Call → Entry → List Step
  | [], _ => []
  | c :: rest, entry => ⟨c, entry⟩ :: steps rest (Step.after ⟨c, entry⟩)

def run : List Call → Entry → Entry
  | [], entry => entry
  | c :: rest, entry => run rest (Step.after ⟨c, entry⟩)

def times (t : Transition) (calls : List Call) (entry : Entry) : List Int :=
  (steps calls entry).filterMap (Step.recorded? t)

namespace Step

/-- A step whose time stands for an integer succeeds and changes one field. -/
theorem of_timestamp {c : Call} {n : Int} (writable : c.writable = true) (time : c.timestamp? = some n)
    (entry : Entry) :
    result ⟨c, entry⟩ = .ok (entry.current.set c.transition.field n) ∧
      after ⟨c, entry⟩ = ⟨entry.current.set c.transition.field n⟩ := by
  rcases record_cases c.clock c.transition c.time entry with
    ⟨refused, -⟩ | ⟨v, m, -, known, -, done⟩ | ⟨m, now, long, -⟩
  · rw [Call.timestamp?, refused] at time
    cases time
  · obtain rfl : m = n := by rw [Call.timestamp?, known] at time; injection time
    simp [result, after, Call.perform, done]
  · exact absurd (Call.fits_of_writable writable now) long

/-- A step whose time stands for no integer fails and changes nothing. -/
theorem of_no_timestamp {c : Call} (time : c.timestamp? = none) (entry : Entry) :
    (∃ e, result ⟨c, entry⟩ = .error e) ∧ after ⟨c, entry⟩ = entry := by
  obtain ⟨e, done⟩ := record_refused c.transition entry time
  exact ⟨⟨e, by simp [result, Call.perform, done]⟩, by simp [after, Call.perform, done]⟩

theorem recorded?_eq {c : Call} (writable : c.writable = true) (t : Transition) (entry : Entry) :
    recorded? t ⟨c, entry⟩ = if c.transition = t then c.timestamp? else none := by
  cases time : c.timestamp? with
  | none =>
    obtain ⟨⟨e, failed⟩, -⟩ := of_no_timestamp time entry
    simp [recorded?, failed]
  | some n => simp [recorded?, (of_timestamp writable time entry).1, time]

/-- What a step makes of a field that belongs to a transition. -/
theorem get_after_transition {c : Call} (writable : c.writable = true) (t : Transition) (entry : Entry) :
    (after ⟨c, entry⟩).current.get t.field = (recorded? t ⟨c, entry⟩).getD (entry.current.get t.field) := by
  rw [recorded?_eq writable]
  cases time : c.timestamp? with
  | none => simp [(of_no_timestamp time entry).2]
  | some n =>
    rw [(of_timestamp writable time entry).2]
    have distinct : t.field = c.transition.field ↔ c.transition = t := by
      cases t <;> cases c.transition <;> decide
    by_cases same : c.transition = t <;> simp [distinct, same]

/-- No step changes a field that belongs to no transition, whatever the time. -/
theorem get_after_other {f : Field} (apart : ∀ t : Transition, f ≠ t.field) (c : Call) (entry : Entry) :
    (after ⟨c, entry⟩).current.get f = entry.current.get f := by
  have kept (n : Int) : (entry.current.set c.transition.field n).get f = entry.current.get f := by
    rw [Fields.get_set, if_neg (apart c.transition)]
  rcases record_cases c.clock c.transition c.time entry with
    ⟨-, e, done⟩ | ⟨v, n, -, -, -, done⟩ | ⟨n, -, -, done⟩
  · simp only [after, Call.perform, done]
  · simp only [after, Call.perform, done, kept]
  · simp only [after, Call.perform, done, kept]

end Step

theorem get_run_transition {calls : List Call} (writable : ∀ c ∈ calls, c.writable = true) (t : Transition)
    (entry : Entry) :
    (run calls entry).current.get t.field =
      (times t calls entry).getLast?.getD (entry.current.get t.field) := by
  induction calls generalizing entry with
  | nil => rfl
  | cons c rest ih =>
    have later := ih (fun d member => writable d (by simp [member])) (Step.after ⟨c, entry⟩)
    rw [Step.get_after_transition (writable c (by simp))] at later
    rw [run, later, times, times, steps, List.filterMap_cons]
    cases Step.recorded? t ⟨c, entry⟩ with
    | none => rfl
    | some n => simp [List.getLast?_cons]

theorem get_run_other {f : Field} (apart : ∀ t : Transition, f ≠ t.field) (calls : List Call) (entry : Entry) :
    (run calls entry).current.get f = entry.current.get f := by
  induction calls generalizing entry with
  | nil => rfl
  | cons c rest ih => rw [run, ih, Step.get_after_other apart]

/-- A step that succeeds returns the lease it puts in place; one that fails changes
nothing. -/
def Step.Faithful (s : Step) : Prop :=
  match s.result with
  | .ok l => s.after.current = l ∧ s.call.timestamp?.isSome = true
  | .error _ => s.after = s.before

theorem Step.faithful {c : Call} (writable : c.writable = true) (entry : Entry) : Step.Faithful ⟨c, entry⟩ := by
  cases time : c.timestamp? with
  | none =>
    obtain ⟨⟨e, failed⟩, kept⟩ := of_no_timestamp time entry
    simp only [Faithful, failed, kept]
  | some n =>
    obtain ⟨done, placed⟩ := of_timestamp writable time entry
    simp [Faithful, done, placed, time]

theorem steps_faithful {calls : List Call} (writable : ∀ c ∈ calls, c.writable = true) (entry : Entry) :
    ∀ s ∈ steps calls entry, s.Faithful := by
  induction calls generalizing entry with
  | nil => simp [steps]
  | cons c rest ih =>
    intro s member
    rcases List.mem_cons.1 member with rfl | tail
    · exact Step.faithful (writable c (by simp)) entry
    · exact ih (fun d inside => writable d (by simp [inside])) _ s tail

/-- After any run the settings and the registration are those of the first lease, each
other timestamp is the last one recorded or that of the first lease, and every step on the
way was all or nothing. -/
theorem run_law (l : Lease) (calls : List Call) (writable : ∀ c ∈ calls, c.writable = true) :
    let last := (run calls ⟨l⟩).current
    (last.renewalInterval = l.renewalInterval ∧ last.duration = l.duration ∧ last.registration = l.registration) ∧
    (last.lastRenewal = (times .renew calls ⟨l⟩).getLast?.getD l.lastRenewal ∧
      last.serviceUp = (times .markUp calls ⟨l⟩).getLast?.getD l.serviceUp ∧
      last.eviction = (times .evict calls ⟨l⟩).getLast?.getD l.eviction) ∧
    ∀ s ∈ steps calls ⟨l⟩, s.Faithful := by
  have other (f : Field) (apart : ∀ t : Transition, f ≠ t.field) := get_run_other apart calls ⟨l⟩
  have own (t : Transition) := get_run_transition writable t ⟨l⟩
  refine ⟨⟨?_, ?_, ?_⟩, ⟨own .renew, own .markUp, own .evict⟩, steps_faithful writable ⟨l⟩⟩
  · exact other .renewalInterval (by intro t; cases t <;> decide)
  · exact other .duration (by intro t; cases t <;> decide)
  · exact other .registration (by intro t; cases t <;> decide)

/-- A clock, a text and two refused times, on a lease with settings no builder would keep. -/
theorem run_law_with_refusals :
    let calls : List Call := [⟨.renew, .whole 5, .null⟩, ⟨.evict, .whole 6, .list []⟩,
      ⟨.markUp, .whole 6, .text " 7 "⟩, ⟨.renew, .whole 6, .float .nan⟩]
    let last := (run calls ⟨⟨-5, 0, 9, 1, 2, 3⟩⟩).current
    (∀ c ∈ calls, c.writable = true) ∧ last.renewalInterval = -5 ∧ last.duration = 0 ∧ last.registration = 9 ∧
      last.lastRenewal = 5000 ∧ last.serviceUp = 7 ∧ last.eviction = 2 := by
  intro calls last
  have writable : ∀ c ∈ calls, c.writable = true := by decide
  obtain ⟨⟨interval, duration, registration⟩, ⟨renewal, up, eviction⟩, -⟩ :=
    run_law ⟨-5, 0, 9, 1, 2, 3⟩ calls writable
  exact ⟨writable, interval, duration, registration, renewal.trans (by decide), up.trans (by decide),
    eviction.trans (by decide)⟩

end ServiceLease.Entry
