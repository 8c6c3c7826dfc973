import Mmorpg.Thread.TimerThread
import Mmorpg.Transition.Fairness

/-!
# Timer events in time

The timer thread among threads that schedule events, with the steady clock.
`ScheduleAfter` reads the clock before it gets the lock, so the reading may be
old when the event is pushed.
-/

namespace Mmorpg

open Transition

universe u

/-- The timer thread, the clock, the pushed events with the times of their
pushes and the dispatched ones with the times of their dispatch. -/
structure Clockwork (ε : Type u) where
  thread : TimerThread ε := {}
  now : Nat := 0
  scheduled : List ((ε × Stamp) × Nat) := []
  dispatched : List ((ε × Stamp) × Nat) := []

/-- The steps of the clock, of the callers and of the timer thread. -/
inductive ClockworkLabel (ε : Type u)
  | tick (elapsed : Nat)
  | schedule (event : ε) (reading delay : Nat)
  | notify
  | notifyNobody
  | wakeSpuriously
  | timeOut
  | relock
  | dispatch

/-- The steps that the timer thread, the end of its timed wait and the threads
that owe it a notification make on their own. -/
def ClockworkLabel.own {ε : Type u} : ClockworkLabel ε → Prop
  | notify | timeOut | relock | dispatch => True
  | _ => False

namespace Clockwork

variable {ε : Type u}

/-- A step of the timer thread that leaves the logs alone. -/
def follow (thread : Option (TimerThread ε)) (clockwork : Clockwork ε) : Option (Clockwork ε) :=
  thread.map fun thread => { clockwork with thread := thread }

/-- A caller pushes an event that is due after a delay, and the clock's reading
is kept as history. -/
def schedule (event : ε) (reading delay : Nat) (clockwork : Clockwork ε) : Clockwork ε :=
  { clockwork with
    thread := clockwork.thread.schedule event (reading + delay)
    scheduled := clockwork.scheduled ++
      [((event, ⟨reading + delay, clockwork.thread.nextSequence⟩), clockwork.now)] }

/-- The timer thread takes an event that is due. -/
def dispatch (clockwork : Clockwork ε) : Option (Clockwork ε) :=
  clockwork.thread.pop.map fun popped =>
    { clockwork with
      thread := popped.2
      dispatched := clockwork.dispatched ++ [(popped.1, clockwork.now)] }

/-- One step of the timer thread or of its surroundings. -/
def step (label : ClockworkLabel ε) (clockwork : Clockwork ε) : Option (Clockwork ε) :=
  match label with
  | .tick elapsed => some { clockwork with now := clockwork.now + elapsed }
  | .schedule event reading delay =>
      if reading ≤ clockwork.now then some (clockwork.schedule event reading delay) else none
  | .notify => clockwork.follow clockwork.thread.notify
  | .notifyNobody => clockwork.follow clockwork.thread.notifyNobody
  | .wakeSpuriously => clockwork.follow clockwork.thread.wakeSpuriously
  | .timeOut => clockwork.follow (clockwork.thread.timeOut clockwork.now)
  | .relock => clockwork.follow (clockwork.thread.relock clockwork.now)
  | .dispatch => clockwork.dispatch

/-! ## Invariant -/

/-- The event was due when it was pushed already. -/
def Late (clockwork : Clockwork ε) (entry : ε × Stamp) : Prop :=
  ∃ time, (entry, time) ∈ clockwork.scheduled ∧ entry.2.wakeupTime ≤ time

/-- The order in which events are dispatched. -/
def Goes (clockwork : Clockwork ε) (first second : ε × Stamp) : Prop :=
  stampOrder first second ∨ clockwork.Late second

/-- All events, those that are dispatched in front. -/
def line (clockwork : Clockwork ε) : List (ε × Stamp) :=
  clockwork.dispatched.map Prod.fst ++ clockwork.thread.pending

/-- What holds in every state: the events scheduled are those dispatched, ready
and waiting, once each and in their order, and none of them became ready before
it was due. -/
structure Sound (clockwork : Clockwork ε) : Prop where
  thread : clockwork.thread.Sound
  numbered : clockwork.scheduled.map (fun entry => entry.1.2.sequence) =
    List.range clockwork.thread.nextSequence
  pushed : ∀ entry ∈ clockwork.scheduled, entry.2 ≤ clockwork.now
  once : clockwork.line.Perm (clockwork.scheduled.map Prod.fst)
  ordered : clockwork.line.Pairwise clockwork.Goes
  ready : ∀ entry ∈ clockwork.thread.readyEvents, entry.2.wakeupTime ≤ clockwork.now
  due : ∀ entry ∈ clockwork.dispatched,
    entry.1.2.wakeupTime ≤ entry.2 ∧ entry.2 ≤ clockwork.now

variable {clockwork next : Clockwork ε} {entry : ε × Stamp} {thread : TimerThread ε}

theorem start_sound : Sound ({} : Clockwork ε) where
  thread := TimerThread.start_sound
  numbered := rfl
  pushed _ member := absurd member List.not_mem_nil
  once := List.Perm.refl _
  ordered := List.Pairwise.nil
  ready _ member := absurd member List.not_mem_nil
  due _ member := absurd member List.not_mem_nil

theorem Sound.tick (sound : Sound clockwork) (elapsed : Nat) :
    Sound { clockwork with now := clockwork.now + elapsed } where
  thread := sound.thread
  numbered := sound.numbered
  pushed entry member := (sound.pushed entry member).trans (Nat.le_add_right _ _)
  once := sound.once
  ordered := sound.ordered
  ready entry member := (sound.ready entry member).trans (Nat.le_add_right _ _)
  due entry member :=
    ⟨(sound.due entry member).1, (sound.due entry member).2.trans (Nat.le_add_right _ _)⟩

/-- The thread may change as long as the line stays. -/
theorem Sound.follow (sound : Sound clockwork) (kept : thread.Sound)
    (sequence : thread.nextSequence = clockwork.thread.nextSequence)
    (same : thread.pending = clockwork.thread.pending)
    (ready : ∀ entry ∈ thread.readyEvents, entry.2.wakeupTime ≤ clockwork.now) :
    Sound { clockwork with thread := thread } where
  thread := kept
  numbered := sound.numbered.trans (congrArg List.range sequence.symm)
  pushed := sound.pushed
  once := by
    have once := sound.once
    unfold line at once ⊢
    rwa [same]
  ordered := by
    have ordered := sound.ordered
    unfold line at ordered ⊢
    rwa [same]
  ready := ready
  due := sound.due

/-! ## Scheduling -/

/-- Dispatched, ready and waiting events in one line. -/
theorem line_eq (clockwork : Clockwork ε) : clockwork.line =
    (clockwork.dispatched.map Prod.fst ++ clockwork.thread.readyEvents) ++
      clockwork.thread.events.elements :=
  (List.append_assoc _ _ _).symm

/-- Whatever has been drained was due. -/
theorem Sound.drained (sound : Sound clockwork) (member : entry ∈
    clockwork.dispatched.map Prod.fst ++ clockwork.thread.readyEvents) :
    entry.2.wakeupTime ≤ clockwork.now := by
  rcases List.mem_append.mp member with before | ready
  · obtain ⟨logged, listed, rfl⟩ := List.mem_map.mp before
    obtain ⟨due, past⟩ := sound.due logged listed
    exact due.trans past
  · exact sound.ready entry ready

/-- A new event does not change the order of the others. -/
theorem Goes.schedule {first second : ε × Stamp} (goes : clockwork.Goes first second) (event : ε)
    (reading delay : Nat) : (clockwork.schedule event reading delay).Goes first second := by
  rcases goes with before | ⟨time, logged, late⟩
  · exact .inl before
  · exact .inr ⟨time, List.mem_append_left _ logged, late⟩

/-- A new event goes where its due time puts it. -/
theorem Sound.ordered_schedule (sound : Sound clockwork) (event : ε) (reading delay : Nat) :
    (clockwork.schedule event reading delay).line.Pairwise
      (clockwork.schedule event reading delay).Goes := by
  have ordered := sound.ordered
  rw [line_eq, List.pairwise_append] at ordered ⊢
  obtain ⟨front, _, across⟩ := ordered
  refine ⟨front.imp fun goes => goes.schedule event reading delay, ?_, ?_⟩
  · exact (clockwork.schedule event reading delay).thread.events.ordered.imp fun before => .inl before
  · intro first member second queued
    rcases PriorityQueue.mem_push.mp queued with rfl | old
    · have past := sound.drained member
      by_cases earlier : first.2.wakeupTime < reading + delay
      · exact .inl (.inl earlier)
      · refine .inr ⟨clockwork.now, List.mem_append_right _ List.mem_cons_self, ?_⟩
        exact (Nat.not_lt.mp earlier).trans past
    · exact (across first member second old).schedule event reading delay

theorem Sound.schedule (sound : Sound clockwork) (event : ε) (reading delay : Nat) :
    Sound (clockwork.schedule event reading delay) where
  thread := sound.thread.schedule event _
  numbered := by
    simp only [Clockwork.schedule, List.map_append, sound.numbered, List.map_cons, List.map_nil]
    exact List.range_succ.symm
  pushed logged member := by
    rcases List.mem_append.mp member with old | new
    · exact sound.pushed logged old
    · obtain rfl := List.mem_singleton.mp new
      exact Nat.le_refl _
  once := by
    have once := (sound.once.cons (event, (⟨reading + delay, clockwork.thread.nextSequence⟩ : Stamp)))
    simp only [line, Clockwork.schedule, List.map_append, List.map_cons, List.map_nil] at once ⊢
    refine (((TimerThread.perm_pending_schedule _ _ _).append_left _).trans List.perm_middle).trans ?_
    exact once.trans (List.perm_append_singleton _ _).symm
  ordered := sound.ordered_schedule event reading delay
  ready := sound.ready
  due := sound.due

/-! ## The timer thread -/

/-- What a step does: pass time, schedule, end a sleep or deliver a
notification to nobody, run the loop head, or dispatch. -/
theorem step_cases {label : ClockworkLabel ε} (taken : step label clockwork = some next) :
    (∃ elapsed, label = .tick elapsed ∧
      next = { clockwork with now := clockwork.now + elapsed }) ∨
    (∃ event reading delay, label = .schedule event reading delay ∧
      next = clockwork.schedule event reading delay) ∨
    (∃ waiter, waiter.Awake ∧
      ((∃ condition, clockwork.thread.waiter.state = .asleep condition ∧
        waiter.state = .resuming condition) ∨
        waiter.state = clockwork.thread.waiter.state ∧ ¬label.own) ∧
      next = { clockwork with thread := { clockwork.thread with waiter := waiter } }) ∨
    (∃ thread, clockwork.thread.relock clockwork.now = some thread ∧
      next = { clockwork with thread := thread }) ∨
    clockwork.dispatch = some next := by
  cases label with
  | tick elapsed => exact .inl ⟨elapsed, rfl, (Option.some.inj taken).symm⟩
  | schedule event reading delay =>
    refine .inr (.inl ⟨event, reading, delay, rfl, ?_⟩)
    unfold step at taken
    dsimp only at taken
    split at taken
    · exact (Option.some.inj taken).symm
    · contradiction
  | notify =>
    obtain ⟨thread, notified, rfl⟩ := Option.map_eq_some_iff.mp taken
    obtain ⟨waiter, woke, rfl⟩ := Option.map_eq_some_iff.mp notified
    refine .inr (.inr (.inl ⟨waiter, Waiter.awake_of_notify woke, .inl ?_, rfl⟩))
    obtain ⟨condition, left, whole, rfl⟩ := Waiter.notify_eq_some.mp woke
    exact ⟨condition, congrArg Waiter.state whole, rfl⟩
  | notifyNobody =>
    obtain ⟨thread, notified, rfl⟩ := Option.map_eq_some_iff.mp taken
    obtain ⟨waiter, lost, rfl⟩ := Option.map_eq_some_iff.mp notified
    refine .inr (.inr (.inl ⟨waiter, Waiter.awake_of_notifyNobody lost, .inr ⟨?_, id⟩, rfl⟩))
    obtain ⟨_, left, _, rfl⟩ := Waiter.notifyNobody_eq_some.mp lost
    rfl
  | wakeSpuriously =>
    obtain ⟨thread, woken, rfl⟩ := Option.map_eq_some_iff.mp taken
    obtain ⟨waiter, woke, rfl⟩ := Option.map_eq_some_iff.mp woken
    refine .inr (.inr (.inl ⟨waiter, Waiter.awake_of_wake woke, .inl ?_, rfl⟩))
    obtain ⟨condition, state, _, rfl⟩ := Waiter.wake_eq_some.mp woke
    exact ⟨condition, state, rfl⟩
  | timeOut =>
    obtain ⟨thread, woken, rfl⟩ := Option.map_eq_some_iff.mp taken
    obtain ⟨waiter, woke, rfl⟩ := Option.map_eq_some_iff.mp woken
    refine .inr (.inr (.inl ⟨waiter, Waiter.awake_of_wake woke, .inl ?_, rfl⟩))
    obtain ⟨condition, state, _, rfl⟩ := Waiter.wake_eq_some.mp woke
    exact ⟨condition, state, rfl⟩
  | relock =>
    obtain ⟨thread, locked, rfl⟩ := Option.map_eq_some_iff.mp taken
    exact .inr (.inr (.inr (.inl ⟨thread, locked, rfl⟩)))
  | dispatch => exact .inr (.inr (.inr (.inr taken)))

/-- The event dispatched is the first one ready. -/
theorem Sound.dispatch (sound : Sound clockwork) (taken : clockwork.dispatch = some next) :
    Sound next := by
  obtain ⟨⟨entry, thread⟩, popped, rfl⟩ := Option.map_eq_some_iff.mp taken
  obtain ⟨kept, pending⟩ := sound.thread.pop popped
  obtain ⟨rest, filled, rfl⟩ := TimerThread.pop_eq_some.mp popped
  have same : (clockwork.dispatched ++ [(entry, clockwork.now)]).map Prod.fst ++
      ({ clockwork.thread with readyEvents := rest } : TimerThread ε).pending = clockwork.line := by
    rw [List.map_append, List.append_assoc, line, pending]
    rfl
  refine ⟨kept, sound.numbered, sound.pushed, ?_, ?_, fun other member => ?_, fun other member => ?_⟩
  · rw [line, same]
    exact sound.once
  · rw [line, same]
    exact sound.ordered
  · exact sound.ready other (filled ▸ List.mem_cons_of_mem _ member)
  · rcases List.mem_append.mp member with old | new
    · exact sound.due other old
    · obtain rfl := List.mem_singleton.mp new
      exact ⟨sound.ready entry (filled ▸ List.mem_cons_self), Nat.le_refl _⟩

theorem Sound.step {label : ClockworkLabel ε} (sound : Sound clockwork)
    (taken : step label clockwork = some next) : Sound next := by
  rcases step_cases taken with ⟨elapsed, -, rfl⟩ | ⟨event, reading, delay, -, rfl⟩ |
    ⟨waiter, awake, -, rfl⟩ | ⟨thread, locked, rfl⟩ | dispatched
  · exact sound.tick elapsed
  · exact sound.schedule event reading delay
  · exact sound.follow (TimerThread.sound_of_awake awake) rfl rfl sound.ready
  · obtain ⟨kept, same⟩ := TimerThread.relock_sound locked
    rcases TimerThread.relock_cases locked with ⟨drained, rfl | ⟨condition, _, _, rfl⟩⟩
    · refine sound.follow kept TimerThread.nextSequence_loopHead same fun entry member => ?_
      exact TimerThread.due_loopHead member drained
    · exact sound.follow kept rfl same sound.ready
  · exact sound.dispatch dispatched

/-- The clockwork is sound after any run. -/
theorem run_sound {labels : List (ClockworkLabel ε)} (ran : run step labels {} = some clockwork) :
    Sound clockwork :=
  invariant_of_run (fun _ _ _ taken sound => sound.step taken) ran start_sound

/-! ## Every event is dispatched -/

variable {label : ClockworkLabel ε}

/-- What can still happen to the thread before an event that is due is
drained. -/
def distance (clockwork : Clockwork ε) : Nat :=
  clockwork.thread.readyEvents.length +
    match clockwork.thread.waiter.state with
    | .asleep _ => 1
    | _ => 0

theorem follow_ne_none {found : Option (TimerThread ε)} (some_ : found = some thread) :
    clockwork.follow found ≠ none := by
  rw [some_]
  exact Option.some_ne_none _

/-- An event that is ready can be dispatched. -/
theorem exists_dispatch (ready : entry ∈ clockwork.thread.readyEvents) :
    ∃ label : ClockworkLabel ε, label.own ∧ step label clockwork ≠ none := by
  obtain ⟨first, rest, filled⟩ := List.exists_cons_of_ne_nil (List.ne_nil_of_mem ready)
  have popped := TimerThread.pop_eq_some.mpr ⟨rest, filled, rfl⟩
  refine ⟨.dispatch, trivial, ?_⟩
  unfold step dispatch
  rw [popped]
  exact Option.some_ne_none _

/-- While an event is queued and due the thread has a step of its own. -/
theorem Sound.enabled (sound : Sound clockwork) (queued : entry ∈ clockwork.thread.events.elements)
    (due : entry.2.wakeupTime ≤ clockwork.now) :
    ∃ label : ClockworkLabel ε, label.own ∧ Clockwork.step label clockwork ≠ none := by
  rcases sound.thread.progress (List.mem_append_right _ queued) due with
    ⟨thread, notified⟩ | ⟨thread, timedOut⟩ | ⟨thread, locked⟩ | ⟨first, thread, popped⟩
  · exact ⟨.notify, trivial, follow_ne_none notified⟩
  · exact ⟨.timeOut, trivial, follow_ne_none timedOut⟩
  · exact ⟨.relock, trivial, follow_ne_none locked⟩
  · obtain ⟨rest, filled, _⟩ := TimerThread.pop_eq_some.mp popped
    exact exists_dispatch (filled ▸ List.mem_cons_self)

/-- An event that is queued and due stays so until it is drained, and every
step of the thread brings that nearer. -/
theorem approaches (taken : step label clockwork = some next)
    (queued : entry ∈ clockwork.thread.events.elements)
    (due : entry.2.wakeupTime ≤ clockwork.now) :
    entry ∈ next.thread.readyEvents ∨
      (entry ∈ next.thread.events.elements ∧ entry.2.wakeupTime ≤ next.now) ∧
        next.distance ≤ clockwork.distance ∧ (label.own → next.distance < clockwork.distance) := by
  rcases step_cases taken with ⟨elapsed, rfl, rfl⟩ | ⟨event, reading, delay, rfl, rfl⟩ |
    ⟨waiter, awake, woken, rfl⟩ | ⟨thread, locked, rfl⟩ | dispatched
  · exact .inr ⟨⟨queued, due.trans (Nat.le_add_right _ _)⟩, Nat.le_refl _, False.elim⟩
  · refine .inr ⟨⟨PriorityQueue.mem_push.mpr (.inr queued), due⟩, Nat.le_of_eq ?_, False.elim⟩
    unfold distance
    rw [schedule, TimerThread.state_schedule]
    rfl
  · refine .inr ⟨⟨queued, due⟩, ?_⟩
    rcases woken with ⟨condition, slept, state⟩ | ⟨same, foreign⟩
    · simp [distance, slept, state]
    · simp [distance, same, foreign]
  · rcases TimerThread.relock_cases locked with ⟨_, rfl | ⟨condition, unmet, early, rfl⟩⟩
    · exact .inl (TimerThread.mem_loopHead queued due)
    · rcases TimerThread.holds_or_isOver queued due condition with holds | ended
      · exact absurd holds (unmet ▸ Bool.false_ne_true)
      · exact absurd ended (early ▸ Bool.false_ne_true)
  · obtain ⟨⟨first, thread⟩, popped, rfl⟩ := Option.map_eq_some_iff.mp dispatched
    obtain ⟨rest, filled, rfl⟩ := TimerThread.pop_eq_some.mp popped
    refine .inr ⟨⟨queued, due⟩, ?_⟩
    simp [distance, filled]

/-- A drained event is dispatched after those in front of it. -/
theorem Sound.advances (sound : Sound clockwork) (taken : Clockwork.step label clockwork = some next)
    (ready : entry ∈ clockwork.thread.readyEvents) :
    entry ∈ next.dispatched.map Prod.fst ∨
      entry ∈ next.thread.readyEvents ∧
        next.thread.readyEvents.length ≤ clockwork.thread.readyEvents.length ∧
        (label.own → next.thread.readyEvents.length < clockwork.thread.readyEvents.length) := by
  rcases step_cases taken with ⟨elapsed, rfl, rfl⟩ | ⟨event, reading, delay, rfl, rfl⟩ |
    ⟨waiter, awake, woken, rfl⟩ | ⟨thread, locked, rfl⟩ | dispatched
  · exact .inr ⟨ready, Nat.le_refl _, False.elim⟩
  · exact .inr ⟨ready, Nat.le_refl _, False.elim⟩
  · refine .inr ⟨ready, Nat.le_refl _, fun own => ?_⟩
    rcases woken with ⟨condition, slept, _⟩ | ⟨_, foreign⟩
    · exact absurd (sound.thread.idle condition slept ▸ ready) List.not_mem_nil
    · exact absurd own foreign
  · exact absurd ((TimerThread.relock_cases locked).1 ▸ ready) List.not_mem_nil
  · obtain ⟨⟨first, thread⟩, popped, rfl⟩ := Option.map_eq_some_iff.mp dispatched
    obtain ⟨rest, filled, rfl⟩ := TimerThread.pop_eq_some.mp popped
    rw [filled] at ready ⊢
    rcases List.mem_cons.mp ready with rfl | later
    · refine .inl ?_
      simp
    · exact .inr ⟨later, Nat.le_succ _, fun _ => Nat.lt_succ_self _⟩

/-- The clock goes on, and nothing is dropped from the log. -/
theorem step_mono (taken : step label clockwork = some next) :
    clockwork.now ≤ next.now ∧ clockwork.scheduled <+: next.scheduled := by
  rcases step_cases taken with ⟨elapsed, rfl, rfl⟩ | ⟨event, reading, delay, rfl, rfl⟩ |
    ⟨waiter, awake, woken, rfl⟩ | ⟨thread, locked, rfl⟩ | dispatched
  · exact ⟨Nat.le_add_right _ _, List.prefix_refl _⟩
  · exact ⟨Nat.le_refl _, List.prefix_append _ _⟩
  · exact ⟨Nat.le_refl _, List.prefix_refl _⟩
  · exact ⟨Nat.le_refl _, List.prefix_refl _⟩
  · obtain ⟨popped, _, rfl⟩ := Option.map_eq_some_iff.mp dispatched
    exact ⟨Nat.le_refl _, List.prefix_refl _⟩

theorem trace_mono (trace : Trace (@step ε)) {first last : Nat} (later : first ≤ last) :
    (trace.state first).now ≤ (trace.state last).now ∧
      (trace.state first).scheduled <+: (trace.state last).scheduled := by
  induction last, later using Nat.le_induction with
  | base => exact ⟨Nat.le_refl _, List.prefix_refl _⟩
  | succ last _ ih =>
    have grows := step_mono (trace.next last)
    exact ⟨ih.1.trans grows.1, ih.2.trans grows.2⟩

/-- Under weak fairness, and as time passes, every event is dispatched. -/
theorem eventually_dispatched (trace : Trace (@step ε)) (booted : trace.state 0 = {})
    (fair : trace.Fair ClockworkLabel.own) (passes : ∀ time, ∃ n, time ≤ (trace.state n).now)
    (n : Nat) {time : Nat} (scheduled : (entry, time) ∈ (trace.state n).scheduled) :
    ∃ m, n ≤ m ∧ entry ∈ (trace.state m).dispatched.map Prod.fst := by
  have sound : ∀ n, Sound (trace.state n) := fun n => by
    have ran := trace.run_take n
    rw [booted] at ran
    exact run_sound ran
  have dispatched : ∀ first, entry ∈ (trace.state first).thread.readyEvents →
      ∃ m, first ≤ m ∧ entry ∈ (trace.state m).dispatched.map Prod.fst := by
    intro first ready
    refine trace.eventually fair
      (fun state => Sound state ∧ entry ∈ state.thread.readyEvents)
      (fun state => entry ∈ state.dispatched.map Prod.fst)
      (fun state => state.thread.readyEvents.length) ?_ ?_ first ⟨sound first, ready⟩
    · rintro state ⟨_, listed⟩ _
      exact exists_dispatch listed
    · rintro label state next taken ⟨holds, listed⟩ _
      rcases holds.advances taken listed with done | ⟨stays, lower, strictly⟩
      · exact .inl done
      · exact .inr ⟨⟨holds.step taken, stays⟩, lower, strictly⟩
  obtain ⟨late, after, due, logged⟩ : ∃ late, n ≤ late ∧ entry.2.wakeupTime ≤ (trace.state late).now ∧
      (entry, time) ∈ (trace.state late).scheduled := by
    obtain ⟨late, reached⟩ := passes entry.2.wakeupTime
    refine ⟨max n late, le_max_left _ _, ?_, ?_⟩
    · exact reached.trans (trace_mono trace (le_max_right _ _)).1
    · exact (trace_mono trace (le_max_left _ _)).2.subset scheduled
  have member := (sound late).once.mem_iff.mpr (List.mem_map_of_mem logged)
  rw [line_eq] at member
  rcases List.mem_append.mp member with drained | queued
  · rcases List.mem_append.mp drained with done | ready
    · exact ⟨late, after, done⟩
    · obtain ⟨m, later, done⟩ := dispatched late ready
      exact ⟨m, after.trans later, done⟩
  · obtain ⟨first, between, ready⟩ := trace.eventually fair
      (fun state => Sound state ∧ entry ∈ state.thread.events.elements ∧
        entry.2.wakeupTime ≤ state.now)
      (fun state => entry ∈ state.thread.readyEvents) distance
      (fun state holds _ => holds.1.enabled holds.2.1 holds.2.2)
      (fun label state next taken holds _ => by
        rcases approaches taken holds.2.1 holds.2.2 with ready | ⟨stays, nearer⟩
        · exact .inl ready
        · exact .inr ⟨⟨holds.1.step taken, stays⟩, nearer⟩)
      late ⟨sound late, queued, due⟩
    obtain ⟨m, later, done⟩ := dispatched first ready
    exact ⟨m, (after.trans between).trans later, done⟩

/-! ## Punctuality -/

/-- Nothing that is pending is due before the wait ends. -/
def Covers (condition : TimerWait) (clockwork : Clockwork ε) : Prop :=
  match condition with
  | .forEvents => clockwork.thread.pending = []
  | .forWakeup nextWakeup => ∀ entry ∈ clockwork.thread.pending, nextWakeup ≤ entry.2.wakeupTime

/-- Every event is pending or dispatched, once; none is dispatched early or
overtaken by a later one, unless it was pushed late; and the thread never
sleeps over an event. -/
structure Punctual (clockwork : Clockwork ε) : Prop where
  once : clockwork.line.Perm (clockwork.scheduled.map Prod.fst)
  distinct : clockwork.line.Nodup
  ordered : (clockwork.dispatched.map Prod.fst).Pairwise clockwork.Goes
  due : ∀ entry ∈ clockwork.dispatched, entry.1.2.wakeupTime ≤ entry.2
  sleeps : ∀ condition, clockwork.thread.waiter.state = .asleep condition →
    0 < clockwork.thread.waiter.notifications ∨ clockwork.Covers condition

/-- A sleeping thread has no event that is due, or is about to be woken. -/
theorem Sound.covers (sound : Sound clockwork) {condition : TimerWait}
    (asleep : clockwork.thread.waiter.state = .asleep condition)
    (unmet : condition.holds clockwork.thread.events.elements = false) :
    clockwork.Covers condition := by
  have pending : clockwork.thread.pending = clockwork.thread.events.elements := by
    rw [TimerThread.pending, sound.thread.idle condition asleep, List.nil_append]
  cases condition with
  | forEvents =>
    rw [Covers, pending]
    simpa [TimerWait.holds] using unmet
  | forWakeup nextWakeup =>
    intro entry member
    rw [pending] at member
    rcases elements : clockwork.thread.events.elements with _ | ⟨top, rest⟩
    · rw [elements] at member
      contradiction
    · have first := TimerThread.top_le elements member
      simp only [TimerWait.holds, elements, List.head?_cons, Option.all_some,
        decide_eq_false_iff_not, not_lt] at unmet
      exact unmet.trans first

theorem Sound.punctual (sound : Sound clockwork) : Punctual clockwork where
  once := sound.once
  distinct := by
    rw [sound.once.nodup_iff]
    refine List.Nodup.of_map (fun entry => entry.2.sequence) ?_
    rw [List.map_map]
    exact sound.numbered ▸ List.nodup_range
  ordered := (List.pairwise_append.mp sound.ordered).1
  due entry member := (sound.due entry member).1
  sleeps condition asleep := by
    by_cases met : condition.holds clockwork.thread.events.elements = true
    · exact .inl (sound.thread.alert condition asleep met)
    · exact .inr (sound.covers asleep (Bool.eq_false_of_not_eq_true met))

/-- The timer dispatches every event once, in order and never early, it never
sleeps over one, and under weak fairness every event is dispatched. -/
theorem events_in_time :
    (∀ (labels : List (ClockworkLabel ε)) (clockwork : Clockwork ε),
      run step labels {} = some clockwork → Punctual clockwork) ∧
    ∀ trace : Trace (@step ε), trace.state 0 = {} → trace.Fair ClockworkLabel.own →
      (∀ time, ∃ n, time ≤ (trace.state n).now) →
      ∀ n entry time, (entry, time) ∈ (trace.state n).scheduled →
        ∃ m, n ≤ m ∧ entry ∈ (trace.state m).dispatched.map Prod.fst :=
  ⟨fun _ _ ran => (run_sound ran).punctual,
    fun trace booted fair passes n _ _ scheduled =>
      eventually_dispatched trace booted fair passes n scheduled⟩

/-- The second event comes while the thread sleeps for the first and is due
earlier; the third was stamped before both but pushed after they were drained. -/
def overtaking : List (ClockworkLabel Char) :=
  [.relock, .schedule 'a' 0 9, .notify, .relock, .tick 2, .schedule 'b' 2 5, .notify, .relock,
    .tick 7, .timeOut, .relock, .dispatch, .schedule 'c' 1 3, .dispatch, .notifyNobody, .relock,
    .dispatch]

/-- An event that is scheduled later and due earlier overtakes. -/
theorem events_in_time_overtaking : ∃ clockwork, run step overtaking {} = some clockwork ∧
    clockwork.dispatched.map (fun entry => entry.1.1) = ['b', 'a', 'c'] ∧ Punctual clockwork := by
  obtain ⟨clockwork, ran, dispatched⟩ : ∃ clockwork, run step overtaking {} = some clockwork ∧
      clockwork.dispatched.map (fun entry => entry.1.1) = ['b', 'a', 'c'] := ⟨_, rfl, rfl⟩
  exact ⟨clockwork, ran, dispatched, events_in_time.1 overtaking clockwork ran⟩

end Clockwork

end Mmorpg
