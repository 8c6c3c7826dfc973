import Mmorpg.World.Backlog
import Mmorpg.World.Boot
import Mmorpg.World.LoginFailure
import Mmorpg.Thread.GameLogicThread
import Mmorpg.Thread.TimerThread
import Mmorpg.Transition.Simulation
import Mathlib.Data.List.Perm.Basic

/-!
# The server on its threads

The seventeen game logic threads and the timer thread with their locks, swapped
queues, heap and notifications.  The world here holds no work: what a task
enqueues and schedules goes to the threads at once.  The server with plain queues
and a plain list of events simulates every run.

Tasks stay undivided, and so do the steps of the other threads; `ProcessEvent`
hands its results over in one step.
-/

namespace Mmorpg

open Transition

variable {grid : CollisionGrid} {collate : String → String}

namespace TimerThread

/-- Schedule events, each its delay after a reading of the clock. -/
def scheduleAll : List TimerEvent → List Nat → TimerThread TimerEvent → TimerThread TimerEvent
  | event :: events, reading :: readings, thread =>
      scheduleAll events readings (thread.schedule event (reading + event.delay))
  | _, _, thread => thread

theorem perm_pending_scheduleAll {events : List TimerEvent} {readings : List Nat}
    {thread : TimerThread TimerEvent} (same : readings.length = events.length) :
    (thread.pending.map Prod.fst ++ events).Perm
      ((scheduleAll events readings thread).pending.map Prod.fst) := by
  induction events generalizing readings thread with
  | nil => exact List.Perm.of_eq (List.append_nil _)
  | cons event rest ih =>
    rcases readings with _ | ⟨reading, others⟩
    · contradiction
    · have pushed := (perm_pending_schedule event (reading + event.delay) thread).map Prod.fst
      exact (List.perm_middle.trans (pushed.append_right rest).symm).trans (ih (Nat.succ.inj same))

/-- Scheduling a handler's events keeps the timer thread sound. -/
theorem Sound.scheduleAll {thread : TimerThread TimerEvent} (sound : Sound thread)
    (events : List TimerEvent) (readings : List Nat) :
    Sound (scheduleAll events readings thread) := by
  induction events generalizing readings thread with
  | nil => exact sound
  | cons event rest ih =>
    rcases readings with _ | ⟨reading, others⟩
    · exact sound
    · exact ih (sound.schedule event _) others

end TimerThread

/-- A step of the server, unless the timer makes it. -/
def Server.Label.visible : Server.Label grid → List (Server.Label grid)
  | .fire _ => []
  | label => [label]

namespace World

/-- The world without the work that waits. -/
def drained (world : World) : World :=
  { world with queues := fun _ => [], timers := [] }

/-- The world holds no task and no event: both are with the threads. -/
def Idle (world : World) : Prop :=
  world.drained = world

theorem Idle.queues {world : World} (idle : world.Idle) : world.queues = fun _ => [] :=
  (congrArg World.queues idle).symm

theorem Idle.timers {world : World} (idle : world.Idle) : world.timers = [] :=
  (congrArg World.timers idle).symm

/-- The world is idle when it holds neither tasks nor events. -/
theorem idle_iff {world : World} :
    world.Idle ↔ world.queues = (fun _ => []) ∧ world.timers = [] := by
  constructor
  · exact fun idle => ⟨idle.queues, idle.timers⟩
  · rintro ⟨queues, timers⟩
    unfold Idle drained
    rw [← queues, ← timers]

/-- The work that a step adds goes behind what was there. -/
theorem ahead_drained (queues : Nat → List Task) (timers : List TimerEvent) (world : World) :
    world.ahead queues timers =
      world.drained.ahead (fun thread => queues thread ++ world.queues thread)
        (timers ++ world.timers) := by
  unfold ahead drained
  simp only [List.append_nil]

end World

/-! ## The machine -/

/-- The server without its work, the threads that hold it, and the clock. -/
structure ThreadedServer (collate : String → String) where
  server : Server collate
  logic : Nat → GameLogicThread Task
  timer : TimerThread TimerEvent
  now : Nat

/-- The steps of the clock, of clients and the database, of the game threads
and of the timer thread. -/
inductive ThreadLabel (grid : CollisionGrid)
  | tick (elapsed : Nat)
  | serve (label : Server.Label grid) (readings : List Nat)
  | execute (thread : Nat) (choice : Choice grid) (readings : List Nat)
  | notifyLogic (thread : Nat)
  | notifyNoLogic (thread : Nat)
  | wakeLogic (thread : Nat)
  | collect (thread : Nat)
  | notifyTimer
  | notifyNoTimer
  | wakeTimer
  | timeOut
  | relock
  | dispatch (readings : List Nat)

namespace ThreadedServer

/-- The work that a step has left in the world goes to the threads. -/
def release (readings : List Nat) (server : Server collate) (threads : ThreadedServer collate) :
    Option (ThreadedServer collate) :=
  if readings.length = server.world.timers.length ∧ ∀ reading ∈ readings, reading ≤ threads.now then
    some
      { threads with
        server := { server with world := server.world.drained }
        logic := fun thread => (threads.logic thread).enqueueAll (server.world.queues thread)
        timer := TimerThread.scheduleAll server.world.timers readings threads.timer }
  else none

/-- A logic thread changes without a task. -/
def setLogic (thread : Nat) (next : Option (GameLogicThread Task))
    (threads : ThreadedServer collate) : Option (ThreadedServer collate) :=
  next.map fun next => { threads with logic := Function.update threads.logic thread next }

/-- The timer thread changes without a dispatch. -/
def setTimer (next : Option (TimerThread TimerEvent)) (threads : ThreadedServer collate) :
    Option (ThreadedServer collate) :=
  next.map fun next => { threads with timer := next }

/-- Accepting, receiving, hanging up and the database. -/
def serve (label : Server.Label grid) (readings : List Nat) (threads : ThreadedServer collate) :
    Option (ThreadedServer collate) :=
  match label with
  | .fire _ | .run _ _ => none
  | label => (Server.step label threads.server).bind fun server => threads.release readings server

/-- A logic thread runs the next task of its local queue. -/
def execute (thread : Nat) (choice : Choice grid) (readings : List Nat)
    (threads : ThreadedServer collate) : Option (ThreadedServer collate) :=
  (threads.logic thread).pop.bind fun popped =>
    (threads.server.world.exec thread choice popped.1).bind fun world =>
      release readings { threads.server with world := world }
        { threads with logic := Function.update threads.logic thread popped.2 }

/-- The timer thread dispatches the next event it has drained. -/
def dispatch (readings : List Nat) (threads : ThreadedServer collate) :
    Option (ThreadedServer collate) :=
  threads.timer.pop.bind fun popped =>
    release readings
      { threads.server with world := Server.dispatchTimer popped.1.1 threads.server.world }
      { threads with timer := popped.2 }

/-- One step of the threads. -/
def step (label : ThreadLabel grid) (threads : ThreadedServer collate) :
    Option (ThreadedServer collate) :=
  match label with
  | .tick elapsed => some { threads with now := threads.now + elapsed }
  | .serve label readings => threads.serve label readings
  | .execute thread choice readings => threads.execute thread choice readings
  | .notifyLogic thread => threads.setLogic thread (threads.logic thread).notify
  | .notifyNoLogic thread => threads.setLogic thread (threads.logic thread).notifyNobody
  | .wakeLogic thread => threads.setLogic thread (threads.logic thread).wakeSpuriously
  | .collect thread => threads.setLogic thread (threads.logic thread).collect
  | .notifyTimer => threads.setTimer threads.timer.notify
  | .notifyNoTimer => threads.setTimer threads.timer.notifyNobody
  | .wakeTimer => threads.setTimer threads.timer.wakeSpuriously
  | .timeOut => threads.setTimer (threads.timer.timeOut threads.now)
  | .relock => threads.setTimer (threads.timer.relock threads.now)
  | .dispatch readings => threads.dispatch readings

/-- What the server with plain queues sees of a step. -/
def visible : ThreadLabel grid → List (Server.Label grid)
  | .serve label _ => [label]
  | .execute thread choice _ => [.run thread choice]
  | _ => []

/-- The server at the start, with every thread about to wait. -/
def boot (count : Nat) (draw : Nat → Int × Int) (store : Store collate) : ThreadedServer collate where
  server := Server.boot count draw store
  logic := fun _ => {}
  timer := {}
  now := 0

/-! ## Simulation -/

/-- The server with plain queues and events. -/
structure Follows (threads : ThreadedServer collate) (server : Server collate) : Prop where
  idle : threads.server.world.Idle
  logic : ∀ thread, (threads.logic thread).Sound
  timer : threads.timer.Sound
  same : ∃ timers, timers.Perm (threads.timer.pending.map Prod.fst) ∧
    server = threads.server.ahead (fun thread => (threads.logic thread).contents) timers

variable {threads next : ThreadedServer collate} {server : Server collate} {readings : List Nat}

theorem Follows.tick (follows : Follows threads server) (elapsed : Nat) :
    Follows { threads with now := threads.now + elapsed } server where
  idle := follows.idle
  logic := follows.logic
  timer := follows.timer
  same := follows.same

/-- A game thread that moves none of its tasks takes no step of the server. -/
theorem Follows.setLogic (follows : Follows threads server) {thread : Nat}
    {changed : GameLogicThread Task} (kept : changed.Sound)
    (same : changed.contents = (threads.logic thread).contents) :
    Follows { threads with logic := Function.update threads.logic thread changed } server where
  idle := follows.idle
  logic other := by
    by_cases here : other = thread
    · subst here
      simpa using kept
    · simpa [here] using follows.logic other
  timer := follows.timer
  same := by
    obtain ⟨timers, events, rfl⟩ := follows.same
    refine ⟨timers, events, congrArg (fun queues => threads.server.ahead queues timers) ?_⟩
    funext other
    by_cases here : other = thread
    · subst here
      simp [same]
    · simp [here]

/-- The timer thread that moves none of its events takes no step of the server. -/
theorem Follows.setTimer (follows : Follows threads server) {changed : TimerThread TimerEvent}
    (kept : changed.Sound) (same : changed.pending = threads.timer.pending) :
    Follows { threads with timer := changed } server where
  idle := follows.idle
  logic := follows.logic
  timer := kept
  same := same ▸ follows.same

/-- The work goes to the threads as it went to the queues. -/
theorem follows_release {timers : List TimerEvent}
    (released : threads.release readings server = some next)
    (logic : ∀ thread, (threads.logic thread).Sound) (timer : threads.timer.Sound)
    (events : timers.Perm (threads.timer.pending.map Prod.fst)) :
    Follows next (server.ahead (fun thread => (threads.logic thread).contents) timers) := by
  unfold release at released
  split at released
  · next stamped =>
    obtain rfl := Option.some.inj released
    constructor
    · exact (rfl : server.world.drained.Idle)
    · exact fun thread => (logic thread).enqueueAll _
    · exact timer.scheduleAll _ _
    · refine ⟨timers ++ server.world.timers, ?_, ?_⟩
      · exact (events.append_right _).trans (TimerThread.perm_pending_scheduleAll stamped.1)
      · unfold Server.ahead
        dsimp only
        simp only [GameLogicThread.contents_enqueueAll]
        rw [World.ahead_drained]
  · contradiction

/-- A task runs in front of the same work. -/
theorem Follows.execute {thread : Nat} {choice : Choice grid} (follows : Follows threads server)
    (taken : threads.execute thread choice readings = some next) :
    ∃ after, Server.step (.run thread choice) server = some after ∧ Follows next after := by
  obtain ⟨⟨task, left⟩, popped, taken⟩ := Option.bind_eq_some_iff.mp taken
  obtain ⟨world, ran, released⟩ := Option.bind_eq_some_iff.mp taken
  obtain ⟨kept, contents⟩ := (follows.logic thread).pop popped
  obtain ⟨timers, events, rfl⟩ := follows.same
  have logic : ∀ other, (Function.update threads.logic thread left other).Sound := by
    intro other
    by_cases here : other = thread
    · subst here
      simpa using kept
    · simpa [here] using follows.logic other
  refine ⟨_, ?_, follows_release released logic follows.timer events⟩
  have queued : (threads.server.ahead (fun thread => (threads.logic thread).contents)
      timers).world.queues thread = task :: left.contents := by
    change (threads.logic thread).contents ++ threads.server.world.queues thread = _
    rw [follows.idle.queues, contents, List.append_nil]
  have rest : Function.update (threads.server.ahead (fun thread => (threads.logic thread).contents)
      timers).world.queues thread left.contents = fun other =>
        (Function.update threads.logic thread left other).contents ++
          threads.server.world.queues other := by
    funext other
    by_cases here : other = thread
    · subst here
      simp [follows.idle.queues]
    · simp [here, Server.ahead, World.ahead]
  change Server.runThread thread choice _ = _
  unfold Server.runThread
  rw [queued]
  dsimp only
  rw [rest]
  change (((threads.server.world.ahead (fun other =>
    (Function.update threads.logic thread left other).contents) timers).exec thread choice
      task).map _) = _
  rw [World.exec_ahead, ran]
  rfl

/-- A dispatched event is one of the pending ones. -/
theorem Follows.dispatch (follows : Follows threads server)
    (taken : threads.dispatch readings = some next) :
    ∃ index after, Server.step (.fire index : Server.Label grid) server = some after ∧
      Follows next after := by
  obtain ⟨⟨⟨event, stamp⟩, left⟩, popped, released⟩ := Option.bind_eq_some_iff.mp taken
  obtain ⟨kept, pending⟩ := follows.timer.pop popped
  obtain ⟨timers, events, rfl⟩ := follows.same
  rw [pending, List.map_cons] at events
  obtain ⟨index, found⟩ := List.mem_iff_getElem?.mp (events.mem_iff.mpr List.mem_cons_self)
  have rest : (timers.eraseIdx index).Perm (left.pending.map Prod.fst) := by
    obtain ⟨bound, rfl⟩ := List.getElem?_eq_some_iff.mp found
    exact ((List.getElem_cons_eraseIdx_perm bound).trans events).cons_inv
  refine ⟨index, _, ?_, follows_release released follows.logic kept rest⟩
  have listed : (threads.server.ahead (fun thread => (threads.logic thread).contents)
      timers).world.timers = timers := by
    change timers ++ threads.server.world.timers = timers
    rw [follows.idle.timers, List.append_nil]
  change Server.fire index _ = _
  unfold Server.fire
  rw [listed, found]
  dsimp only
  have same : { (threads.server.ahead (fun thread => (threads.logic thread).contents)
      timers).world with timers := timers.eraseIdx index } = threads.server.world.ahead
        (fun thread => (threads.logic thread).contents) (timers.eraseIdx index) := by
    unfold Server.ahead World.ahead
    dsimp only
    rw [follows.idle.timers, List.append_nil]
  rw [same, Server.dispatchTimer_ahead]
  rfl

/-- Steps from outside are steps of the server. -/
theorem Follows.serve {label : Server.Label grid} (follows : Follows threads server)
    (taken : threads.serve label readings = some next) :
    ∃ after, Server.step label server = some after ∧ Follows next after ∧
      (∀ index, label ≠ .fire index) := by
  unfold ThreadedServer.serve at taken
  split at taken
  · contradiction
  · contradiction
  · next noFire noTask =>
    obtain ⟨stepped, step, released⟩ := Option.bind_eq_some_iff.mp taken
    obtain ⟨timers, events, rfl⟩ := follows.same
    refine ⟨_, ?_, follows_release released follows.logic follows.timer events, noFire⟩
    rw [Server.step_ahead noFire noTask, step]
    rfl

/-- The server with plain queues simulates the threads. -/
theorem simulates : Simulates (@step grid collate) Server.step visible Server.Label.visible
    Follows := by
  intro label threads next server taken follows
  have silently : ∀ {other : ThreadedServer collate}, Follows other server → ∃ labels after,
      run (@Server.step grid collate) labels server = some after ∧
        labels.flatMap Server.Label.visible = [] ∧ Follows other after :=
    fun related => simulated_silently related
  cases label with
  | tick elapsed =>
    obtain rfl := Option.some.inj taken
    exact silently (follows.tick elapsed)
  | serve label readings =>
    obtain ⟨after, stepped, related, noFire⟩ := follows.serve taken
    have shown : Server.Label.visible label = [label] := by
      cases label with
      | fire index => exact absurd rfl (noFire index)
      | _ => rfl
    obtain ⟨labels, last, ran, shows, kept⟩ : ∃ labels last,
        run (@Server.step grid collate) labels server = some last ∧
          labels.flatMap Server.Label.visible = Server.Label.visible label ∧ Follows next last :=
      simulated_once stepped related
    exact ⟨labels, last, ran, shows.trans shown, kept⟩
  | execute thread choice readings =>
    obtain ⟨after, stepped, related⟩ := follows.execute taken
    exact simulated_once stepped related
  | notifyLogic thread =>
    obtain ⟨changed, notified, rfl⟩ := Option.map_eq_some_iff.mp taken
    obtain ⟨kept, same⟩ := GameLogicThread.notify_sound notified
    exact silently (follows.setLogic kept same)
  | notifyNoLogic thread =>
    obtain ⟨changed, notified, rfl⟩ := Option.map_eq_some_iff.mp taken
    obtain ⟨kept, same⟩ := GameLogicThread.notifyNobody_sound notified
    exact silently (follows.setLogic kept same)
  | wakeLogic thread =>
    obtain ⟨changed, woken, rfl⟩ := Option.map_eq_some_iff.mp taken
    obtain ⟨kept, same⟩ := GameLogicThread.wakeSpuriously_sound woken
    exact silently (follows.setLogic kept same)
  | collect thread =>
    obtain ⟨changed, swapped, rfl⟩ := Option.map_eq_some_iff.mp taken
    obtain ⟨kept, same⟩ := GameLogicThread.collect_sound swapped
    exact silently (follows.setLogic kept same)
  | notifyTimer =>
    obtain ⟨changed, notified, rfl⟩ := Option.map_eq_some_iff.mp taken
    obtain ⟨kept, same⟩ := TimerThread.notify_sound notified
    exact silently (follows.setTimer kept same)
  | notifyNoTimer =>
    obtain ⟨changed, notified, rfl⟩ := Option.map_eq_some_iff.mp taken
    obtain ⟨kept, same⟩ := TimerThread.notifyNobody_sound notified
    exact silently (follows.setTimer kept same)
  | wakeTimer =>
    obtain ⟨changed, woken, rfl⟩ := Option.map_eq_some_iff.mp taken
    obtain ⟨waiter, woke, rfl⟩ := Option.map_eq_some_iff.mp woken
    exact silently (follows.setTimer (TimerThread.wake_sound woke) rfl)
  | timeOut =>
    obtain ⟨changed, woken, rfl⟩ := Option.map_eq_some_iff.mp taken
    obtain ⟨waiter, woke, rfl⟩ := Option.map_eq_some_iff.mp woken
    exact silently (follows.setTimer (TimerThread.wake_sound woke) rfl)
  | relock =>
    obtain ⟨changed, locked, rfl⟩ := Option.map_eq_some_iff.mp taken
    obtain ⟨kept, same⟩ := TimerThread.relock_sound locked
    exact silently (follows.setTimer kept same)
  | dispatch readings =>
    obtain ⟨index, after, fired, related⟩ := follows.dispatch taken
    exact simulated_once fired related

/-! ## Start -/

/-- Placing an object makes no work. -/
theorem updatePosition_work {world : World} {zone : Nat} {id : ObjID} {x y : Int} :
    (world.updatePosition zone id x y).queues = world.queues ∧
      (world.updatePosition zone id x y).timers = world.timers := by
  unfold World.updatePosition
  split
  · exact ⟨rfl, rfl⟩
  · unfold World.updateObjectSectorAndPosition World.updateObjectZone
    dsimp only
    split_ifs <;> exact ⟨rfl, rfl⟩

/-- The server starts without tasks and events. -/
theorem boot_idle (count : Nat) (draw : Nat → Int × Int) : (World.boot count draw).Idle := by
  apply World.boot_invariant (fun _ world => world.Idle) rfl
  intro done index world _ _ idle
  obtain ⟨queues, timers⟩ := World.idle_iff.mp idle
  exact World.idle_iff.mpr ⟨updatePosition_work.1.trans queues, updatePosition_work.2.trans timers⟩

theorem boot_follows (count : Nat) (draw : Nat → Int × Int) (store : Store collate) :
    Follows (boot count draw store) (Server.boot count draw store) where
  idle := boot_idle count draw
  logic _ := GameLogicThread.start_sound
  timer := TimerThread.start_sound
  same := ⟨[], List.Perm.refl _, rfl⟩

/-! ## Refinement -/

/-- No thread sleeps over its work: as long as it has some, the thread can go on
or is about to be woken. -/
structure Attentive (threads : ThreadedServer collate) : Prop where
  logic : ∀ thread, (threads.logic thread).contents ≠ [] →
    (∃ next, (threads.logic thread).notify = some next) ∨
      (∃ next, (threads.logic thread).collect = some next) ∨
      ∃ task next, (threads.logic thread).pop = some (task, next)
  timer : ∀ entry ∈ threads.timer.pending, entry.2.wakeupTime ≤ threads.now →
    (∃ next, threads.timer.notify = some next) ∨
      (∃ next, threads.timer.timeOut threads.now = some next) ∨
      (∃ next, threads.timer.relock threads.now = some next) ∨
      ∃ first next, threads.timer.pop = some (first, next)

/-- No thread sleeps while there is work for it. -/
theorem Follows.attentive (follows : Follows threads server) : Attentive threads where
  logic thread left := (follows.logic thread).progress left
  timer _ pending due := follows.timer.progress pending due

/-- Every run of the threads is a run of the server with plain queues and
events that takes the same steps in the same order, and no thread sleeps over
its work. -/
theorem threads_refine {count : Nat} {draw : Nat → Int × Int} {store : Store collate}
    {labels : List (ThreadLabel grid)}
    (ran : run step labels (boot count draw store) = some threads) :
    (∃ serverLabels server,
      run Server.step serverLabels (Server.boot count draw store) = some server ∧
        serverLabels.flatMap Server.Label.visible = labels.flatMap visible ∧
        Follows threads server) ∧
      Attentive threads := by
  obtain ⟨serverLabels, server, serverRan, same, follows⟩ :=
    simulates.run ran (boot_follows count draw store)
  exact ⟨⟨serverLabels, server, serverRan, same, follows⟩, follows.attentive⟩

/-- A login whose healing timer fires. -/
def healing : List (ThreadLabel initCollisionTile) :=
  let lobby := invalidZoneId
  [.collect lobby, .serve .accept [], .serve (.receive 1 (.userLoginReq "kim" "")) [],
    .notifyLogic lobby, .collect lobby, .execute lobby .steady [], .serve (.database 0 {} true) [],
    .collect 0, .relock, .execute 0 .steady [0], .notifyTimer, .relock, .tick 5000, .timeOut,
    .relock, .dispatch [], .collect 0, .execute 0 .steady [5000]]

/-- A user logs in and is healed. -/
theorem threads_refine_healing : ∃ (threads : ThreadedServer id) (serverLabels : List _)
    (server : Server id),
    run step healing (boot 0 (fun _ => (9, 9)) World.savedStore) = some threads ∧
      run (@Server.step initCollisionTile id) serverLabels
        (Server.boot 0 (fun _ => (9, 9)) World.savedStore) = some server ∧
      server.world.timers.length = 1 ∧ server.world.queues 0 = [] := by
  have completes : (run step healing (boot 0 (fun _ => (9, 9)) World.savedStore)).isSome := by
    rfl
  obtain ⟨threads, ran⟩ := Option.isSome_iff_exists.mp completes
  obtain ⟨serverLabels, server, serverRan, _, follows⟩ := (threads_refine ran).1
  refine ⟨threads, serverLabels, server, ran, serverRan, ?_, ?_⟩
  all_goals
    obtain ⟨timers, events, rfl⟩ := follows.same
    obtain rfl := Option.some.inj ran
  · exact (List.length_append.trans rfl).trans events.length_eq
  · rfl

end ThreadedServer

end Mmorpg
