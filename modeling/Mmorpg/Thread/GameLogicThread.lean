import Mmorpg.Transition.Waiter
import Mathlib.Data.List.Basic

/-!
# Game logic threads

`GameLogicThread::Run` swaps the shared queue with its empty local one under the
lock and runs the local one without it.  `Enqueue` notifies after it unlocked.
-/

namespace Mmorpg

open Transition

universe u

/-- The shared queue, the local one and the wait for the shared one to fill. -/
structure GameLogicThread (τ : Type u) where
  queue : List τ := []
  localQueue : List τ := []
  waiter : Waiter Unit := {}

namespace GameLogicThread

variable {τ : Type u}

/-- `Enqueue` appends a task and notifies the thread. -/
def enqueue (task : τ) (thread : GameLogicThread τ) : GameLogicThread τ :=
  { thread with queue := thread.queue ++ [task], waiter := thread.waiter.signal }

/-- One task after the other. -/
def enqueueAll (tasks : List τ) (thread : GameLogicThread τ) : GameLogicThread τ :=
  tasks.foldl (fun current task => current.enqueue task) thread

/-- A notification reaches the thread that waits. -/
def notify (thread : GameLogicThread τ) : Option (GameLogicThread τ) :=
  thread.waiter.notify.map fun waiter => { thread with waiter := waiter }

/-- A notification finds nobody waiting. -/
def notifyNobody (thread : GameLogicThread τ) : Option (GameLogicThread τ) :=
  thread.waiter.notifyNobody.map fun waiter => { thread with waiter := waiter }

/-- The wait returns without a notification. -/
def wakeSpuriously (thread : GameLogicThread τ) : Option (GameLogicThread τ) :=
  (thread.waiter.wake fun _ => true).map fun waiter => { thread with waiter := waiter }

/-- With the lock: wait until the queue is filled, then swap the queues. -/
def collect (thread : GameLogicThread τ) : Option (GameLogicThread τ) :=
  match thread.waiter.state, thread.localQueue with
  | .running, [] | .resuming _, [] =>
      match thread.queue with
      | [] => some { thread with waiter := thread.waiter.sleep () }
      | tasks => some { queue := [], localQueue := tasks, waiter := thread.waiter.leave }
  | _, _ => none

/-- Take the next task off the local queue. -/
def pop (thread : GameLogicThread τ) : Option (τ × GameLogicThread τ) :=
  match thread.localQueue with
  | [] => none
  | task :: rest => some (task, { thread with localQueue := rest })

/-- The tasks that have not been taken yet, in the order of their execution. -/
def contents (thread : GameLogicThread τ) : List τ :=
  thread.localQueue ++ thread.queue

/-- A sleeping thread has nothing to do, or is being notified. -/
structure Sound (thread : GameLogicThread τ) : Prop where
  alert : thread.waiter.Alert fun _ => thread.queue ≠ []
  idle : ∀ condition, thread.waiter.state = .asleep condition → thread.localQueue = []

variable {thread next : GameLogicThread τ} {task : τ}

/-- An awake thread. -/
theorem sound_of_awake (awake : thread.waiter.Awake) : Sound thread :=
  ⟨awake.alert, fun condition asleep => absurd asleep (awake condition)⟩

theorem start_sound : Sound ({} : GameLogicThread τ) :=
  sound_of_awake (Waiter.awake_running 0)

/-! ## Enqueueing -/

@[simp]
theorem contents_enqueue : (thread.enqueue task).contents = thread.contents ++ [task] :=
  (List.append_assoc _ _ _).symm

theorem Sound.enqueue (sound : Sound thread) (task : τ) : Sound (thread.enqueue task) :=
  ⟨Waiter.alert_signal, sound.idle⟩

@[simp]
theorem contents_enqueueAll (tasks : List τ) :
    (thread.enqueueAll tasks).contents = thread.contents ++ tasks := by
  induction tasks generalizing thread with
  | nil => exact (List.append_nil _).symm
  | cons task rest ih =>
    rw [enqueueAll, List.foldl_cons, ← enqueueAll, ih, contents_enqueue, List.append_assoc]
    rfl

theorem Sound.enqueueAll (sound : Sound thread) (tasks : List τ) :
    Sound (thread.enqueueAll tasks) := by
  induction tasks generalizing thread with
  | nil => exact sound
  | cons task rest ih => exact ih (sound.enqueue task)

/-! ## Waking -/

theorem notify_sound (taken : thread.notify = some next) :
    Sound next ∧ next.contents = thread.contents := by
  obtain ⟨waiter, notified, rfl⟩ := Option.map_eq_some_iff.mp taken
  exact ⟨sound_of_awake (Waiter.awake_of_notify notified), rfl⟩

theorem notifyNobody_sound (taken : thread.notifyNobody = some next) :
    Sound next ∧ next.contents = thread.contents := by
  obtain ⟨waiter, notified, rfl⟩ := Option.map_eq_some_iff.mp taken
  exact ⟨sound_of_awake (Waiter.awake_of_notifyNobody notified), rfl⟩

theorem wakeSpuriously_sound (taken : thread.wakeSpuriously = some next) :
    Sound next ∧ next.contents = thread.contents := by
  obtain ⟨waiter, woken, rfl⟩ := Option.map_eq_some_iff.mp taken
  exact ⟨sound_of_awake (Waiter.awake_of_wake woken), rfl⟩

/-! ## Swapping and running -/

/-- The thread takes the whole queue, or goes to sleep on an empty one. -/
theorem collect_eq_some : thread.collect = some next ↔
    thread.waiter.Awake ∧ thread.localQueue = [] ∧
      next =
        if thread.queue = [] then { thread with waiter := thread.waiter.sleep () }
        else { queue := [], localQueue := thread.queue, waiter := thread.waiter.leave } := by
  rcases thread with ⟨queue, localQueue, ⟨state, notifications⟩⟩
  cases state <;> cases localQueue <;> cases queue <;> simp [collect, Waiter.Awake, eq_comm]

/-- Collecting keeps the tasks and their order. -/
theorem collect_sound (taken : thread.collect = some next) :
    Sound next ∧ next.contents = thread.contents := by
  obtain ⟨_, empty, rfl⟩ := collect_eq_some.mp taken
  split
  · next drained =>
    exact ⟨⟨Waiter.alert_sleep fun filled => filled drained, fun _ _ => empty⟩, rfl⟩
  · refine ⟨sound_of_awake (Waiter.awake_running _), ?_⟩
    rw [contents, contents, empty, List.append_nil, List.nil_append]

theorem pop_eq_some : thread.pop = some (task, next) ↔
    ∃ rest, thread.localQueue = task :: rest ∧ next = { thread with localQueue := rest } := by
  unfold pop
  split
  · next empty => simp [empty]
  · next first rest filled => simp [filled, eq_comm]

theorem Sound.pop (sound : Sound thread) (taken : thread.pop = some (task, next)) :
    Sound next ∧ thread.contents = task :: next.contents := by
  obtain ⟨rest, filled, rfl⟩ := pop_eq_some.mp taken
  refine ⟨⟨sound.alert, fun condition asleep => ?_⟩, ?_⟩
  · have empty := sound.idle condition asleep
    rw [filled] at empty
    contradiction
  · rw [contents, filled]
    rfl

/-- As long as tasks are left the thread can be notified, can swap its queues
or can take a task. -/
theorem Sound.progress (sound : Sound thread) (left : thread.contents ≠ []) :
    (∃ next, thread.notify = some next) ∨ (∃ next, thread.collect = some next) ∨
      ∃ task next, thread.pop = some (task, next) := by
  rcases filled : thread.localQueue with _ | ⟨task, rest⟩
  · rw [contents, filled, List.nil_append] at left
    rcases state : thread.waiter.state with _ | condition | condition
    · exact .inr (.inl ⟨_, collect_eq_some.mpr ⟨by simp [Waiter.Awake, state], filled, rfl⟩⟩)
    · obtain ⟨waiter, notified⟩ := sound.alert.exists_notify state left
      exact .inl ⟨_, Option.map_eq_some_iff.mpr ⟨waiter, notified, rfl⟩⟩
    · exact .inr (.inl ⟨_, collect_eq_some.mpr ⟨by simp [Waiter.Awake, state], filled, rfl⟩⟩)
  · exact .inr (.inr ⟨task, _, pop_eq_some.mpr ⟨rest, filled, rfl⟩⟩)

end GameLogicThread

end Mmorpg
