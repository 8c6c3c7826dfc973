import Mmorpg.Transition.Timeline
import Mmorpg.Transition.Waiter

/-!
# The timer thread

`TimerThread`: `Schedule` pushes an event under the lock and notifies after it
unlocked, but only if the event is the first to be due.  `DoTimer` holds the lock
from the end of a wait to the next one or until it has drained the events that
are due, and dispatches those without the lock.
-/

namespace Mmorpg

open Transition

universe u

/-- The two predicate waits of `DoTimer`. -/
inductive TimerWait
  | forEvents
  | forWakeup (nextWakeup : Nat)
  deriving DecidableEq, Repr

namespace TimerWait

variable {ε : Type u}

/-- The predicate of the wait. -/
def holds (events : List (ε × Stamp)) : TimerWait → Bool
  | forEvents => !events.isEmpty
  | .forWakeup nextWakeup => events.head?.all fun top => top.2.wakeupTime < nextWakeup

/-- `wait_until` has reached its time. -/
def isOver (now : Nat) : TimerWait → Bool
  | forEvents => false
  | .forWakeup nextWakeup => nextWakeup ≤ now

end TimerWait

/-- The heap, the drained events that are still to be dispatched, and the wait
of the thread. -/
structure TimerThread (ε : Type u) where
  events : PriorityQueue (stampOrder (α := ε)) := .empty
  nextSequence : Nat := 0
  readyEvents : List (ε × Stamp) := []
  waiter : Waiter TimerWait := {}

namespace TimerThread

variable {ε : Type u}

/-- The event may be dispatched. -/
def isDue (now : Nat) (entry : ε × Stamp) : Bool :=
  entry.2.wakeupTime ≤ now

/-- `ShouldNotifyForNewEvent`: the new event is the first one. -/
def shouldNotifyForNewEvent (stamp : Stamp) (thread : TimerThread ε) : Bool :=
  thread.events.elements.head?.all fun top => stamp.wakeupTime < top.2.wakeupTime

/-- `Schedule` with the wake-up time that `ScheduleAfter` has computed. -/
def schedule (event : ε) (wakeupTime : Nat) (thread : TimerThread ε) : TimerThread ε :=
  let stamp := ⟨wakeupTime, thread.nextSequence⟩
  { thread with
    events := thread.events.push (event, stamp)
    nextSequence := thread.nextSequence + 1
    waiter :=
      if thread.shouldNotifyForNewEvent stamp then thread.waiter.signal else thread.waiter }

/-- A notification reaches the timer thread. -/
def notify (thread : TimerThread ε) : Option (TimerThread ε) :=
  thread.waiter.notify.map fun waiter => { thread with waiter := waiter }

/-- A notification finds the timer thread at work. -/
def notifyNobody (thread : TimerThread ε) : Option (TimerThread ε) :=
  thread.waiter.notifyNobody.map fun waiter => { thread with waiter := waiter }

/-- A wait returns without a notification. -/
def wakeSpuriously (thread : TimerThread ε) : Option (TimerThread ε) :=
  (thread.waiter.wake fun _ => true).map fun waiter => { thread with waiter := waiter }

/-- The wait ends because its deadline is over. -/
def timeOut (now : Nat) (thread : TimerThread ε) : Option (TimerThread ε) :=
  (thread.waiter.wake (TimerWait.isOver now)).map fun waiter => { thread with waiter := waiter }

/-- The head of the loops, with the lock: wait for an event, wait for the time
of the first one, or drain what is due. -/
def loopHead (now : Nat) (thread : TimerThread ε) : TimerThread ε :=
  match thread.events.elements with
  | [] => { thread with waiter := thread.waiter.sleep .forEvents }
  | top :: _ =>
      if now < top.2.wakeupTime then
        { thread with waiter := thread.waiter.sleep (.forWakeup top.2.wakeupTime) }
      else
        let drained := thread.events.drain (isDue now)
        { thread with
          events := drained.2
          readyEvents := drained.1
          waiter := thread.waiter.leave }

/-- The thread locks: after a wait it tests its predicate and the time first,
after dispatching it goes on with the loop. -/
def relock (now : Nat) (thread : TimerThread ε) : Option (TimerThread ε) :=
  match thread.waiter.state, thread.readyEvents with
  | .running, [] => some (thread.loopHead now)
  | .resuming condition, [] =>
      if condition.holds thread.events.elements ∨ condition.isOver now then
        some (thread.loopHead now)
      else some { thread with waiter := thread.waiter.sleep condition }
  | _, _ => none

/-- Take the next drained event for `Dispatch`. -/
def pop (thread : TimerThread ε) : Option ((ε × Stamp) × TimerThread ε) :=
  match thread.readyEvents with
  | [] => none
  | entry :: rest => some (entry, { thread with readyEvents := rest })

/-- The events that are not dispatched yet, in the order in which they will be
if no other event comes. -/
def pending (thread : TimerThread ε) : List (ε × Stamp) :=
  thread.readyEvents ++ thread.events.elements

/-- A sleeping thread has dispatched what it drained, and misses nothing without
being notified. -/
structure Sound (thread : TimerThread ε) : Prop where
  alert : thread.waiter.Alert fun condition => condition.holds thread.events.elements = true
  idle : ∀ condition, thread.waiter.state = .asleep condition → thread.readyEvents = []

variable {thread next : TimerThread ε} {event : ε} {entry : ε × Stamp} {now wakeupTime : Nat}

theorem sound_of_awake (awake : thread.waiter.Awake) : Sound thread :=
  ⟨awake.alert, fun condition asleep => absurd asleep (awake condition)⟩

theorem start_sound : Sound ({} : TimerThread ε) :=
  sound_of_awake (Waiter.awake_running 0)

/-! ## Scheduling -/

theorem perm_pending_schedule (event : ε) (wakeupTime : Nat) (thread : TimerThread ε) :
    (thread.schedule event wakeupTime).pending.Perm
      ((event, ⟨wakeupTime, thread.nextSequence⟩) :: thread.pending) :=
  ((List.perm_orderedInsert _ _ _).append_left _).trans List.perm_middle

/-- An event that is not the first makes no predicate true. -/
theorem holds_push {condition : TimerWait} {stamp : Stamp}
    (late : thread.shouldNotifyForNewEvent stamp = false)
    (now : condition.holds (thread.events.push (event, stamp)).elements = true) :
    condition.holds thread.events.elements = true := by
  unfold shouldNotifyForNewEvent at late
  change condition.holds (List.orderedInsert stampOrder (event, stamp) thread.events.elements) = true at now
  rcases elements : thread.events.elements with _ | ⟨top, rest⟩
  · rw [elements] at late
    contradiction
  · rw [elements] at late now
    cases condition with
    | forEvents => rfl
    | forWakeup nextWakeup =>
      simp only [List.head?_cons, Option.all_some, decide_eq_false_iff_not, not_lt] at late
      simp only [TimerWait.holds, List.head?_cons, Option.all_some, decide_eq_true_eq]
      rw [List.orderedInsert] at now
      split at now
      · have before : stamp.wakeupTime < nextWakeup := by simpa [TimerWait.holds] using now
        omega
      · simpa [TimerWait.holds] using now

theorem state_schedule :
    (thread.schedule event wakeupTime).waiter.state = thread.waiter.state := by
  unfold TimerThread.schedule
  dsimp only
  split <;> rfl

/-- A new event that comes first wakes the thread. -/
theorem Sound.schedule (sound : Sound thread) (event : ε) (wakeupTime : Nat) :
    Sound (thread.schedule event wakeupTime) := by
  constructor
  · unfold TimerThread.schedule
    dsimp only
    split
    · exact Waiter.alert_signal
    · next late =>
      exact sound.alert.mono fun condition _ now => holds_push (by simpa using late) now
  · exact fun condition asleep => sound.idle condition (state_schedule.symm.trans asleep)

/-! ## Waking -/

theorem notify_sound (taken : thread.notify = some next) :
    Sound next ∧ next.pending = thread.pending := by
  obtain ⟨waiter, notified, rfl⟩ := Option.map_eq_some_iff.mp taken
  exact ⟨sound_of_awake (Waiter.awake_of_notify notified), rfl⟩

theorem notifyNobody_sound (taken : thread.notifyNobody = some next) :
    Sound next ∧ next.pending = thread.pending := by
  obtain ⟨waiter, notified, rfl⟩ := Option.map_eq_some_iff.mp taken
  exact ⟨sound_of_awake (Waiter.awake_of_notifyNobody notified), rfl⟩

theorem wake_sound {may : TimerWait → Bool} {waiter : Waiter TimerWait}
    (woken : thread.waiter.wake may = some waiter) : Sound { thread with waiter := waiter } :=
  sound_of_awake (Waiter.awake_of_wake woken)

/-! ## The loops -/

/-- The thread sleeps until its first event is due. -/
theorem loopHead_sound (drained : thread.readyEvents = []) (now : Nat) :
    Sound (thread.loopHead now) := by
  unfold loopHead
  split
  · next empty =>
    refine ⟨Waiter.alert_sleep ?_, fun _ _ => drained⟩
    simp [TimerWait.holds, empty]
  · next top rest elements =>
    split
    · refine ⟨Waiter.alert_sleep ?_, fun _ _ => drained⟩
      simp [TimerWait.holds, elements]
    · exact sound_of_awake (Waiter.awake_running _)

/-- The loop head hands on the first events of the heap and keeps the order of
all. -/
theorem pending_loopHead (drained : thread.readyEvents = []) :
    (thread.loopHead now).pending = thread.pending := by
  unfold loopHead
  split
  · rfl
  · split
    · rfl
    · rw [pending, pending, drained, PriorityQueue.drain_append, List.nil_append]

theorem nextSequence_loopHead : (thread.loopHead now).nextSequence = thread.nextSequence := by
  unfold loopHead
  split
  · rfl
  · split <;> rfl

/-- What the loop head hands on is due. -/
theorem due_loopHead (member : entry ∈ (thread.loopHead now).readyEvents)
    (drained : thread.readyEvents = []) : entry.2.wakeupTime ≤ now := by
  unfold loopHead at member
  split at member
  · rw [drained] at member
    contradiction
  · split at member
    · rw [drained] at member
      contradiction
    · have due : isDue now entry = true := PriorityQueue.due_of_mem_drain member
      exact of_decide_eq_true due

theorem top_le {events : PriorityQueue (stampOrder (α := ε))} {top : ε × Stamp}
    {rest : List (ε × Stamp)} (elements : events.elements = top :: rest)
    (queued : entry ∈ events.elements) : top.2.wakeupTime ≤ entry.2.wakeupTime := by
  have ordered := events.ordered
  rw [elements] at queued ordered
  rcases List.mem_cons.mp queued with rfl | later
  · exact Nat.le_refl _
  · exact Stamp.wakeupTime_le ((List.pairwise_cons.mp ordered).1 _ later)

/-- The first event of the heap is due as well. -/
theorem holds_or_isOver {events : PriorityQueue (stampOrder (α := ε))}
    (queued : entry ∈ events.elements) (due : entry.2.wakeupTime ≤ now) (condition : TimerWait) :
    condition.holds events.elements = true ∨ condition.isOver now = true := by
  rcases elements : events.elements with _ | ⟨top, rest⟩
  · rw [elements] at queued
    contradiction
  · cases condition with
    | forEvents => exact .inl rfl
    | forWakeup nextWakeup =>
      have first := top_le elements queued
      simp only [TimerWait.holds, TimerWait.isOver, List.head?_cons, Option.all_some,
        decide_eq_true_eq]
      omega

/-- The loop head hands on every event that is due. -/
theorem mem_loopHead (queued : entry ∈ thread.events.elements) (due : entry.2.wakeupTime ≤ now) :
    entry ∈ (thread.loopHead now).readyEvents := by
  unfold loopHead
  split
  · next empty =>
    rw [empty] at queued
    contradiction
  · next top rest elements =>
    rw [if_neg (Nat.not_lt.mpr ((top_le elements queued).trans due))]
    refine PriorityQueue.mem_drain ?_ queued (decide_eq_true due)
    intro earlier later before isDue
    exact decide_eq_true ((Stamp.wakeupTime_le before).trans (of_decide_eq_true isDue))

/-- What the thread does when it has the lock. -/
theorem relock_cases (taken : thread.relock now = some next) : thread.readyEvents = [] ∧
    (next = thread.loopHead now ∨ ∃ condition,
      condition.holds thread.events.elements = false ∧ condition.isOver now = false ∧
        next = { thread with waiter := thread.waiter.sleep condition }) := by
  unfold relock at taken
  split at taken
  · next drained => exact ⟨drained, .inl (Option.some.inj taken).symm⟩
  · next condition _ drained =>
    refine ⟨drained, ?_⟩
    split at taken
    · exact .inl (Option.some.inj taken).symm
    · next unmet =>
      rw [not_or, Bool.not_eq_true, Bool.not_eq_true] at unmet
      exact .inr ⟨condition, unmet.1, unmet.2, (Option.some.inj taken).symm⟩
  · contradiction

theorem exists_relock (awake : thread.waiter.Awake) (drained : thread.readyEvents = []) (now : Nat) :
    ∃ next, thread.relock now = some next := by
  unfold relock
  rw [drained]
  rcases state : thread.waiter.state with _ | condition | condition
  · exact ⟨_, rfl⟩
  · exact absurd state (awake condition)
  · dsimp only
    split <;> exact ⟨_, rfl⟩

theorem relock_sound (taken : thread.relock now = some next) :
    Sound next ∧ next.pending = thread.pending := by
  rcases relock_cases taken with ⟨drained, rfl | ⟨condition, unmet, _, rfl⟩⟩
  · exact ⟨loopHead_sound drained now, pending_loopHead drained⟩
  · exact ⟨⟨Waiter.alert_sleep (unmet ▸ Bool.false_ne_true), fun _ _ => drained⟩, rfl⟩

theorem pop_eq_some : thread.pop = some (entry, next) ↔
    ∃ rest, thread.readyEvents = entry :: rest ∧ next = { thread with readyEvents := rest } := by
  unfold pop
  split
  · next empty => simp [empty]
  · next first rest filled => simp [filled, eq_comm]

/-- The event dispatched is the first one ready. -/
theorem Sound.pop (sound : Sound thread) (taken : thread.pop = some (entry, next)) :
    Sound next ∧ thread.pending = entry :: next.pending := by
  obtain ⟨rest, filled, rfl⟩ := pop_eq_some.mp taken
  refine ⟨⟨sound.alert, fun condition asleep => ?_⟩, ?_⟩
  · have empty := sound.idle condition asleep
    rw [filled] at empty
    contradiction
  · rw [pending, filled]
    rfl

/-- As long as an event is due the thread can be notified, its wait can time
out, it can lock or it can dispatch. -/
theorem Sound.progress (sound : Sound thread) (waits : entry ∈ thread.pending)
    (due : entry.2.wakeupTime ≤ now) :
    (∃ next, thread.notify = some next) ∨ (∃ next, thread.timeOut now = some next) ∨
      (∃ next, thread.relock now = some next) ∨ ∃ first next, thread.pop = some (first, next) := by
  rcases ready : thread.readyEvents with _ | ⟨first, rest⟩
  · have queued : entry ∈ thread.events.elements := by
      rw [pending, ready, List.nil_append] at waits
      exact waits
    by_cases awake : thread.waiter.Awake
    · exact .inr (.inr (.inl (exists_relock awake ready now)))
    · obtain ⟨condition, state⟩ : ∃ condition, thread.waiter.state = .asleep condition := by
        rw [Waiter.Awake, not_forall] at awake
        exact awake.imp fun _ asleep => not_not.mp asleep
      rcases holds_or_isOver queued due condition with holds | ended
      · obtain ⟨waiter, notified⟩ := sound.alert.exists_notify state holds
        exact .inl ⟨_, congrArg (Option.map _) notified⟩
      · have woken := Waiter.wake_eq_some.mpr ⟨condition, state, ended, rfl⟩
        exact .inr (.inl ⟨_, congrArg (Option.map _) woken⟩)
  · exact .inr (.inr (.inr ⟨first, _, pop_eq_some.mpr ⟨rest, ready, rfl⟩⟩))

end TimerThread

end Mmorpg
