import Mathlib.Data.Option.Basic

/-!
# Waiting on a condition variable

One thread waits on a condition variable for one of several conditions.  Other
threads change the guarded state and notify after they have unlocked, so a
notification may be under way while the thread already sleeps.
-/

namespace Mmorpg.Transition

universe u

variable {π : Type u}

/-- Whether a thread runs, sleeps in a wait, or has been woken there and still
has to lock and to test its condition. -/
inductive WaitState (π : Type u)
  | running
  | asleep (condition : π)
  | resuming (condition : π)

/-- The waiting thread and the notifications that are under way. -/
structure Waiter (π : Type u) where
  state : WaitState π := .running
  notifications : Nat := 0

namespace Waiter

/-- The thread goes to sleep on a condition. -/
def sleep (condition : π) (waiter : Waiter π) : Waiter π :=
  { waiter with state := .asleep condition }

/-- Return from the wait. -/
def leave (waiter : Waiter π) : Waiter π :=
  { waiter with state := .running }

/-- Another thread is about to notify. -/
def signal (waiter : Waiter π) : Waiter π :=
  { waiter with notifications := waiter.notifications + 1 }

/-- `notify_one` on a sleeping thread. -/
def notify (waiter : Waiter π) : Option (Waiter π) :=
  match waiter.state, waiter.notifications with
  | .asleep condition, left + 1 => some { state := .resuming condition, notifications := left }
  | _, _ => none

/-- `notify_one` when nobody sleeps. -/
def notifyNobody (waiter : Waiter π) : Option (Waiter π) :=
  match waiter.state, waiter.notifications with
  | .asleep _, _ | _, 0 => none
  | _, left + 1 => some { waiter with notifications := left }

/-- The wait ends without a notification, where `may` allows it. -/
def wake (may : π → Bool) (waiter : Waiter π) : Option (Waiter π) :=
  match waiter.state with
  | .asleep condition =>
      if may condition then some { waiter with state := .resuming condition } else none
  | _ => none

/-- While a condition holds that the thread sleeps for, a notification is under
way. -/
def Alert (holds : π → Prop) (waiter : Waiter π) : Prop :=
  ∀ condition, waiter.state = .asleep condition → holds condition → 0 < waiter.notifications

/-- The thread is not asleep. -/
def Awake (waiter : Waiter π) : Prop :=
  ∀ condition, waiter.state ≠ .asleep condition

variable {holds later : π → Prop} {waiter next : Waiter π} {condition : π}

/-- After a signal anything may have become true. -/
theorem alert_signal : Alert holds waiter.signal := fun _ _ _ => Nat.succ_pos _

/-- Without a signal nothing may have become true. -/
theorem Alert.mono (alert : Alert holds waiter)
    (weaker : ∀ condition, waiter.state = .asleep condition → later condition → holds condition) :
    Alert later waiter := fun condition asleep now =>
  alert condition asleep (weaker condition asleep now)

theorem awake_running (notifications : Nat) : Awake (⟨.running, notifications⟩ : Waiter π) := by
  intro _ asleep
  cases asleep

theorem awake_resuming (condition : π) (notifications : Nat) :
    Awake ⟨.resuming condition, notifications⟩ := by
  intro _ asleep
  cases asleep

theorem Awake.alert (awake : Awake waiter) : Alert holds waiter := fun condition asleep =>
  absurd asleep (awake condition)

/-- It is safe to sleep on a condition that does not hold. -/
theorem alert_sleep (unmet : ¬holds condition) : Alert holds (waiter.sleep condition) := by
  intro other asleep now
  obtain rfl := WaitState.asleep.inj asleep
  exact absurd now unmet

/-- A notification reaches a sleeping thread. -/
theorem notify_eq_some : waiter.notify = some next ↔ ∃ condition left,
    waiter = ⟨.asleep condition, left + 1⟩ ∧ next = ⟨.resuming condition, left⟩ := by
  constructor
  · intro taken
    rcases waiter with ⟨state, notifications⟩
    unfold notify at taken
    split at taken
    · next condition left asleep more =>
      obtain rfl : state = .asleep condition := asleep
      obtain rfl : notifications = left + 1 := more
      exact ⟨condition, left, rfl, (Option.some.inj taken).symm⟩
    · contradiction
  · rintro ⟨condition, left, rfl, rfl⟩
    rfl

/-- A notification is lost on a thread that is awake. -/
theorem notifyNobody_eq_some : waiter.notifyNobody = some next ↔
    Awake waiter ∧ ∃ left,
      waiter.notifications = left + 1 ∧ next = { waiter with notifications := left } := by
  rcases waiter with ⟨state, notifications⟩
  cases state <;> cases notifications <;> simp [notifyNobody, Awake, eq_comm]

theorem wake_eq_some {may : π → Bool} : waiter.wake may = some next ↔ ∃ condition,
    waiter.state = .asleep condition ∧ may condition = true ∧
      next = { waiter with state := .resuming condition } := by
  constructor
  · intro taken
    unfold wake at taken
    split at taken
    · next condition asleep =>
      split at taken
      · next allowed => exact ⟨condition, asleep, allowed, (Option.some.inj taken).symm⟩
      · contradiction
    · contradiction
  · rintro ⟨condition, asleep, allowed, rfl⟩
    simp only [wake, asleep, allowed, if_true]

theorem awake_of_notify (taken : waiter.notify = some next) : Awake next := by
  obtain ⟨condition, left, _, rfl⟩ := notify_eq_some.mp taken
  exact awake_resuming condition left

theorem awake_of_notifyNobody (taken : waiter.notifyNobody = some next) : Awake next := by
  obtain ⟨awake, left, _, rfl⟩ := notifyNobody_eq_some.mp taken
  exact awake

theorem awake_of_wake {may : π → Bool} (taken : waiter.wake may = some next) : Awake next := by
  obtain ⟨condition, _, _, rfl⟩ := wake_eq_some.mp taken
  exact awake_resuming condition _

/-- A sleeper whose condition holds can be woken. -/
theorem Alert.exists_notify (alert : Alert holds waiter) (asleep : waiter.state = .asleep condition)
    (now : holds condition) : ∃ next, waiter.notify = some next := by
  obtain ⟨left, more⟩ := Nat.exists_eq_succ_of_ne_zero (Nat.pos_iff_ne_zero.mp (alert condition asleep now))
  refine ⟨⟨.resuming condition, left⟩, notify_eq_some.mpr ⟨condition, left, ?_, rfl⟩⟩
  rw [← asleep, ← Nat.succ_eq_add_one, ← more]

end Waiter

end Mmorpg.Transition
