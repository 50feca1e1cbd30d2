import ServiceLease.Proofs.Action
import ServiceLease.Proofs.Lease.Checked
import ServiceLease.Proofs.Number.Decimal
import ServiceLease.Registration.Entry

/-! What one call on an entry does. The new lease is in place before its notice has a
text, so the failures before that point leave the entry alone and the failure of the
text itself does not. -/
namespace ServiceLease

/-- Of the values that stand for an integer only an integer beyond the limit has no text. -/
theorem Value.display?_isSome_iff {v : Value} {n : Int} (whole : Coercion.integer v = .ok n) :
    v.display?.isSome = true ↔ ∀ m, v = .int m → Decimal.fits m = true := by
  cases v with
  | int m => by_cases fits : Decimal.fits m <;> simp [display?, fits]
  | null => cases whole
  | list items => cases whole
  | object members => cases whole
  | bool b => simp [display?]
  | float x => simp [display?]
  | text s => simp [display?]
  | broken t => cases whole

namespace Entry

theorem advance_eq (l : Lease) (t : Transition) (v : Value) :
    advance l t v () =
      match Coercion.integer v with
      | .ok n => ⟨.ok (l.set t.field n), (), []⟩
      | .error complaint => ⟨.error (.rejected .lease [⟨[t.field.label], complaint⟩]), (), []⟩ := by
  have timestamp : t.field.standard? = none := by cases t <;> rfl
  have checked := Lease.ofValues_set Field.label l t.field v
  simp only [advance, Action.within, Builder.set, timestamp, Builder.build, Action.bind_eq, Action.andThen,
    Action.update, Action.state, Builder.store, Builder.ofLease, Builder.ofFields, Builder.lease, checked]
  cases Coercion.integer v <;> rfl

/-- The integer that a time stands for by a clock. -/
def timestamp? (clock : Clock) (ts : Value) : Option Int :=
  match clock.orNow ts with
  | .ok v => (Coercion.integer v).toOption
  | .error _ => none

theorem timestamp?_of_int {clock : Clock} {ts : Value} {n : Int} (now : clock.orNow ts = .ok (.int n)) :
    timestamp? clock ts = some n := by
  rw [timestamp?, now]; rfl

/-- A time that the clock or the check refuses leaves the entry as it was. -/
theorem record_refused {clock : Clock} {ts : Value} (t : Transition) (entry : Entry)
    (refused : timestamp? clock ts = none) :
    ∃ e, record clock t ts entry = ⟨.error e, entry, []⟩ := by
  unfold timestamp? at refused
  unfold record
  cases now : clock.orNow ts with
  | error e => exact ⟨e, rfl⟩
  | ok v =>
    cases whole : Coercion.integer v with
    | ok n => simp [now, whole, Except.toOption] at refused
    | error complaint =>
      have step := advance_eq entry.current t v
      simp only [whole] at step
      refine ⟨.rejected .lease [⟨[t.field.label], complaint⟩], ?_⟩
      rw [Action.ofExcept_ok_bind, Action.state_bind]
      exact Action.bind_of_error _ _ (by simp only [Action.within, step])

/-- A time that both accept is in the entry, whether or not the notice can be given. -/
theorem record_eq {clock : Clock} {ts v : Value} {n : Int} (t : Transition) (entry : Entry)
    (now : clock.orNow ts = .ok v) (whole : Coercion.integer v = .ok n) :
    record clock t ts entry =
      if v.display?.isSome then
        ⟨.ok (entry.current.set t.field n), ⟨entry.current.set t.field n⟩, [.leaseReplaced t v]⟩
      else ⟨.error .integerUnwritable, ⟨entry.current.set t.field n⟩, []⟩ := by
  have step := advance_eq entry.current t v
  simp only [whole] at step
  unfold record
  rw [now, Action.ofExcept_ok_bind, Action.state_bind,
    Action.bind_of_ok (a := entry.current.set t.field n) (t := entry) _ _
      (by simp only [Action.within, step]), Action.update_bind, Action.note_bind]
  simp [Notice.text?, Action.pure_eq]

/-- All that a call can do: it is refused and nothing changes, it succeeds, or the new
lease is in place and only its notice fails. -/
theorem record_cases (clock : Clock) (t : Transition) (ts : Value) (entry : Entry) :
    (timestamp? clock ts = none ∧ ∃ e, record clock t ts entry = ⟨.error e, entry, []⟩) ∨
    (∃ v n, clock.orNow ts = .ok v ∧ timestamp? clock ts = some n ∧ (∀ m, v = .int m → Decimal.fits m = true) ∧
      record clock t ts entry =
        ⟨.ok (entry.current.set t.field n), ⟨entry.current.set t.field n⟩, [.leaseReplaced t v]⟩) ∨
    (∃ n, clock.orNow ts = .ok (.int n) ∧ ¬ Decimal.fits n = true ∧
      record clock t ts entry = ⟨.error .integerUnwritable, ⟨entry.current.set t.field n⟩, []⟩) := by
  cases time : timestamp? clock ts with
  | none => exact .inl ⟨rfl, record_refused t entry time⟩
  | some n =>
    obtain ⟨v, now, whole⟩ : ∃ v, clock.orNow ts = .ok v ∧ Coercion.integer v = .ok n := by
      unfold timestamp? at time
      cases now : clock.orNow ts with
      | error e => simp [now] at time
      | ok v => cases whole : Coercion.integer v <;> simp_all [Except.toOption]
    have text := Value.display?_isSome_iff whole
    have done := record_eq t entry now whole
    by_cases shown : v.display?.isSome = true
    · rw [if_pos shown] at done
      exact .inr (.inl ⟨v, n, now, rfl, text.1 shown, done⟩)
    · obtain ⟨m, rfl, long⟩ : ∃ m, v = .int m ∧ ¬ Decimal.fits m = true := by
        simpa using fun all => shown (text.2 all)
      obtain rfl : m = n := by injection whole
      rw [if_neg shown] at done
      exact .inr (.inr ⟨m, now, long, done⟩)

theorem set_eq_self_iff (l : Lease) (f : Field) (n : Int) : l.set f n = l ↔ l.get f = n := by
  constructor
  · intro same
    rw [← same]; simp
  · intro same
    refine Fields.ext_get fun g => ?_
    by_cases here : g = f
    · simp [here, same]
    · simp [here]

/-- Failures of one call, exactly: no notice is ever given, and the entry is left alone
unless the time is an integer without a text that the lease does not hold already. -/
theorem failed_record_keeps_lease_iff (clock : Clock) (t : Transition) (ts : Value) (entry : Entry) :
    (∀ e, (record clock t ts entry).result = .error e → (record clock t ts entry).notices = []) ∧
    ((∀ e, (record clock t ts entry).result = .error e → (record clock t ts entry).state = entry) ↔
      ∀ n, clock.orNow ts = .ok (.int n) → Decimal.fits n = true ∨ entry.current.get t.field = n) := by
  obtain ⟨current⟩ := entry
  rcases record_cases clock t ts ⟨current⟩ with
    ⟨refused, e, done⟩ | ⟨v, n, now, -, fits, done⟩ | ⟨n, now, long, done⟩
  · have other (n : Int) : clock.orNow ts ≠ .ok (.int n) := fun now => by
      simp [timestamp?_of_int now] at refused
    simp [done, other]
  · simp only [done, now]
    simpa using fun m same => .inl (fits m same)
  · simp [done, now, long, set_eq_self_iff]

/-- The first second of which the time in milliseconds has no text. -/
def lateClock : Clock := .whole (Decimal.beyond (Decimal.digitLimit - 3))

theorem lateClock_now : lateClock.orNow .null = .ok (.int (Decimal.beyond Decimal.digitLimit)) := by
  have parts : Decimal.digitLimit = Decimal.digitLimit - 3 + 3 := rfl
  rw [parts, Decimal.beyond_add, Int.natCast_mul]
  rfl

/-- By that clock a renewal at the present time fails, and yet its lease has replaced the one before. -/
theorem failed_renewal_replaces_lease :
    let late := record lateClock .renew .null ⟨Lease.initial⟩
    (∃ e, late.result = .error e) ∧ late.state ≠ ⟨Lease.initial⟩ := by
  have done := record_eq .renew ⟨Lease.initial⟩ lateClock_now rfl
  have unshown : ¬ (Value.int (Decimal.beyond Decimal.digitLimit)).display?.isSome = true := by
    rw [Value.display?, if_neg Decimal.not_fits_beyond]
    exact Bool.false_ne_true
  rw [if_neg unshown] at done
  rw [done]
  refine ⟨⟨_, rfl⟩, fun same => ?_⟩
  have renewed : (Decimal.beyond Decimal.digitLimit : Int) = 0 :=
    congrArg (fun e : Entry => e.current.lastRenewal) same
  have large : 10 ≤ Decimal.beyond Decimal.digitLimit := Decimal.ten_le_beyond (by decide)
  omega

end Entry

end ServiceLease
