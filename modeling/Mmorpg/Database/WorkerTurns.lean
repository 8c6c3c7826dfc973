import Mmorpg.Database.WorkerThreads
import Mmorpg.Transition.Simulation

/-!
# The worker threads refine the shard workers

What a thread does with the lock of its shard, and that the worker of the shard
follows every step: it moves when the thread does, and stays through
notifications, spurious wake-ups and the work on the connection.
-/

namespace Mmorpg.DBThread

open Transition

variable {collate : String → String} {hash : String → Nat}

/-! ## What a thread does with the lock -/

namespace WorkerThread

/-- Between two events a thread has none in hand; during one it is awake. -/
structure Fits (working : Option (DbEvent × LoginPhase)) (thread : WorkerThread) : Prop where
  free : thread.errand = .starting ∨ thread.errand = .returning → working = none
  awake : thread.errand ≠ .starting → thread.errand ≠ .returning →
    thread.waiter.state = .running

variable {thread : WorkerThread} {queue : List DbEvent} {now : Nat} {condition : ShardWait}

/-- A thread in a wait has no event in hand. -/
theorem Fits.idle {working : Option (DbEvent × LoginPhase)} (fits : thread.Fits working)
    (waits : thread.waiter.state ≠ .running) : working = none := by
  by_contra busy
  refine waits (fits.awake ?_ ?_)
  · exact fun starting => busy (fits.free (.inl starting))
  · exact fun returning => busy (fits.free (.inr returning))

/-- A thread goes to sleep on a condition that does not hold. -/
theorem loopHead_unmet (queue : List DbEvent) : (loopHead queue).holds queue = false := by
  cases queue with
  | nil => rfl
  | cons top rest => simp [loopHead, ShardWait.holds]

/-- What a thread that has waited does: it goes on waiting, goes back to the
heads of the loops, or takes the first event. -/
structure Leaves (condition : ShardWait) (queue : List DbEvent) (now : Nat) : Prop where
  filled : condition = .forEvents → queue ≠ []
  moved : ∀ nextWakeup, condition = .forWakeup nextWakeup → ∀ top, queue.head? = some top →
    top.stamp.wakeupTime < nextWakeup ∨ nextWakeup ≤ now ∧ now < top.stamp.wakeupTime

/-- The time of the first event has come. -/
structure Due (condition : ShardWait) (queue : List DbEvent) (now : Nat) : Prop where
  waited : ∃ nextWakeup, condition = .forWakeup nextWakeup ∧ nextWakeup ≤ now ∧
    ∃ top, queue.head? = some top ∧ nextWakeup ≤ top.stamp.wakeupTime ∧ top.stamp.wakeupTime ≤ now

/-- What a thread does with the lock of its shard. -/
theorem turn_cases {turn : Turn} (turns : thread.turn queue now = some turn) :
    (turn = .wait (loopHead queue) ∧ thread.waiter.state = .running ∧
      (thread.errand = .starting ∨ thread.errand = .returning)) ∨
    ∃ condition, thread.waiter.state = .resuming condition ∧
      ((turn = .wait condition ∧ condition.holds queue = false ∧ condition.isOver now = false) ∨
        (turn = .wait (loopHead queue) ∧ Leaves condition queue now) ∨
        (turn = .take ∧ Due condition queue now)) := by
  unfold WorkerThread.turn at turns
  split at turns
  · contradiction
  · next running =>
    split at turns
    · next starting => exact .inl ⟨(Option.some.inj turns).symm, running, .inl starting⟩
    · next returning => exact .inl ⟨(Option.some.inj turns).symm, running, .inr returning⟩
    · contradiction
  · next condition resuming =>
    refine .inr ⟨condition, resuming, ?_⟩
    split at turns
    · next ended =>
      split at turns
      · next nextWakeup top rest =>
        simp only [ShardWait.holds, ShardWait.isOver, List.head?_cons, Option.all_some,
          decide_eq_true_eq] at ended
        split at turns
        · next again =>
          refine .inr (.inl ⟨(Option.some.inj turns).symm, ⟨ShardWait.noConfusion, ?_⟩⟩)
          rintro waited same first isFirst
          obtain rfl := ShardWait.forWakeup.inj same
          obtain rfl := Option.some.inj isFirst
          omega
        · next come =>
          refine .inr (.inr ⟨(Option.some.inj turns).symm, ⟨nextWakeup, rfl, ?_, top, rfl, ?_⟩⟩)
          all_goals omega
      · next none_ =>
        refine .inr (.inl ⟨(Option.some.inj turns).symm, ⟨?_, ?_⟩⟩)
        · rintro rfl empty
          simp [ShardWait.holds, ShardWait.isOver, empty] at ended
        · rintro nextWakeup rfl top isTop
          obtain ⟨rest, rfl⟩ := List.head?_eq_some_iff.mp isTop
          exact absurd rfl (none_ nextWakeup top rest rfl)
    · next unmet =>
      rw [not_or, Bool.not_eq_true, Bool.not_eq_true] at unmet
      exact .inl ⟨(Option.some.inj turns).symm, unmet⟩

/-- Only a thread without an event in hand locks its shard. -/
theorem Fits.free_of_turn {working : Option (DbEvent × LoginPhase)} (fits : thread.Fits working)
    {turn : Turn} (turns : thread.turn queue now = some turn) : working = none := by
  rcases turn_cases turns with ⟨_, _, between⟩ | ⟨condition, resuming, _⟩
  · exact fits.free between
  · exact fits.idle (by rw [resuming]; simp)

/-- A thread that goes to sleep has found the predicate of its wait false. -/
theorem unmet_of_turn (turns : thread.turn queue now = some (.wait condition)) :
    condition.holds queue = false := by
  rcases turn_cases turns with ⟨same, _⟩ | ⟨waited, _, ⟨same, unmet, _⟩ | ⟨same, _⟩ | ⟨same, _⟩⟩
  · exact Turn.wait.inj same ▸ loopHead_unmet queue
  · exact Turn.wait.inj same ▸ unmet
  · exact Turn.wait.inj same ▸ loopHead_unmet queue
  · exact Turn.noConfusion same

/-- A thread that sleeps where it was still has time to wait. -/
theorem early_of_turn (turns : thread.turn queue now = some (.wait condition))
    (same : condition.point = thread.point) : condition.isOver now = false := by
  unfold point at same
  rcases turn_cases turns with ⟨head, running, between⟩ |
    ⟨waited, resuming, ⟨again, _, early⟩ | ⟨head, leaves⟩ | ⟨took, _⟩⟩
  · rw [running] at same
    cases condition with
    | forEvents => rfl
    | forWakeup nextWakeup =>
      rcases between with starting | returning
      · rw [starting] at same
        contradiction
      · rw [returning] at same
        contradiction
  · exact Turn.wait.inj again ▸ early
  · rw [resuming] at same
    cases condition with
    | forEvents => rfl
    | forWakeup nextWakeup =>
      obtain rfl : waited = .forWakeup nextWakeup := by
        cases waited with
        | forEvents => contradiction
        | forWakeup other => exact congrArg _ (WorkerPoint.waitUntil.inj same).symm
      rcases queue with _ | ⟨top, rest⟩
      · exact ShardWait.noConfusion (Turn.wait.inj head)
      · obtain rfl := ShardWait.forWakeup.inj (Turn.wait.inj head)
        rcases leaves.moved _ rfl top rfl with earlier | ⟨_, late⟩
        · exact absurd earlier (Nat.lt_irrefl _)
        · exact decide_eq_false (Nat.not_le.mpr late)
  · exact Turn.noConfusion took

end WorkerThread

/-! ## The shard workers follow -/

namespace Database

variable {database next : Database collate} {shard : ShardIndex} {thread : WorkerThread}

/-- The shard workers stay, or take a step of the same worker that they do not
show. -/
def Follows (hash : String → Nat) (shard : ShardIndex) (workers next : Workers collate) : Prop :=
  next = workers ∨ ∃ label : WorkerLabel, label.worker = some shard ∧ label.visible = [] ∧
    workerStep hash label workers = some next

@[simp]
theorem threads_setThread_self : (database.setThread shard thread).threads shard = thread :=
  Function.update_self _ _ _

theorem threads_setThread_of_ne {other : ShardIndex} (different : other ≠ shard) :
    (database.setThread shard thread).threads other = database.threads other :=
  Function.update_of_ne different _ _

/-- A thread moves, and its worker moves with it. -/
theorem workers_setThread (database : Database collate) (shard : ShardIndex)
    (thread : WorkerThread) :
    (database.setThread shard thread).workers = database.workers.moveTo shard thread.point := by
  unfold workers setThread Workers.moveTo
  congr 1
  exact Function.comp_update WorkerThread.point database.threads shard thread

theorem moveTo_same {workers : Workers collate} {point : WorkerPoint}
    (same : workers.points shard = point) : workers.moveTo shard point = workers := by
  unfold Workers.moveTo
  rw [← same, Function.update_eq_self]

/-- Threads and workers see the same first event. -/
theorem workers_top (database : Database collate) (shard : ShardIndex) :
    database.workers.top shard = (database.queue shard).head? :=
  rfl

theorem workers_loopHead (database : Database collate) (shard : ShardIndex) :
    database.workers.loopHead shard =
      database.workers.moveTo shard (WorkerThread.loopHead (database.queue shard)).point := by
  unfold Workers.loopHead
  rw [workers_top]
  cases database.queue shard <;> rfl

/-- A thread between two events goes on like the worker of its shard. -/
theorem follows_between (running : (database.threads shard).waiter.state = .running)
    (between : (database.threads shard).errand = .starting ∨
      (database.threads shard).errand = .returning)
    (free : (database.system.shards shard).working = none) :
    Follows hash shard database.workers (database.workers.loopHead shard) := by
  have point : database.workers.points shard = (database.threads shard).point := rfl
  unfold WorkerThread.point at point
  rw [running] at point
  rcases between with starting | returning
  · rw [starting] at point
    by_cases empty : database.workers.top shard = none
    · refine .inl ?_
      unfold Workers.loopHead
      rw [empty]
      exact moveTo_same point
    · refine .inr ⟨.wake shard, rfl, rfl, ?_⟩
      simp [workerStep, Workers.wake, point, empty]
  · rw [returning] at point
    refine .inr ⟨.relock shard, rfl, rfl, ?_⟩
    have idle : (database.workers.system.shards shard).working = none := free
    simp [workerStep, Workers.relock, point, idle]

/-- So does a thread that goes back to the heads of the loops. -/
theorem follows_leaves {condition : ShardWait}
    (resuming : (database.threads shard).waiter.state = .resuming condition)
    (leaves : WorkerThread.Leaves condition (database.queue shard) database.system.now) :
    Follows hash shard database.workers (database.workers.loopHead shard) := by
  have point : database.workers.points shard = (database.threads shard).point := rfl
  unfold WorkerThread.point at point
  rw [resuming] at point
  cases condition with
  | forEvents =>
    refine .inr ⟨.wake shard, rfl, rfl, ?_⟩
    have filled : database.workers.top shard ≠ none := by
      rw [workers_top, ne_eq, List.head?_eq_none_iff]
      exact leaves.filled rfl
    simp [workerStep, Workers.wake, point, ShardWait.point, filled]
  | forWakeup nextWakeup =>
    refine .inr ⟨.wakeUntil shard, rfl, rfl, ?_⟩
    have point : database.workers.points shard = .waitUntil nextWakeup := point
    rcases top : database.workers.top shard with _ | first
    · simp [workerStep, Workers.wakeUntil, point, top]
    · rcases leaves.moved nextWakeup rfl first top with earlier | ⟨elapsed, late⟩
      · simp [workerStep, Workers.wakeUntil, point, top, earlier]
      · have now : database.workers.system.now = database.system.now := rfl
        simp [workerStep, Workers.wakeUntil, point, top, now, late, Nat.not_lt.mpr elapsed]

/-- With the lock a thread goes to sleep, after a false predicate, or takes the
first event, and the worker of its shard follows. -/
theorem lock_cases (hash : String → Nat) (taken : database.lock shard = some next)
    (fits : (database.threads shard).Fits (database.system.shards shard).working) :
    (∃ condition, (database.threads shard).turn (database.queue shard) database.system.now =
        some (.wait condition) ∧
      next = database.setThread shard ((database.threads shard).sleep condition) ∧
      Follows hash shard database.workers next.workers) ∨
    database.take shard = some next ∧ (database.threads shard).waiter.state ≠ .running ∧
      workerStep hash (.wakeUntil shard) database.workers = some next.workers := by
  unfold lock at taken
  split at taken
  · contradiction
  · next condition turns =>
    obtain rfl := Option.some.inj taken
    refine .inl ⟨condition, turns, rfl, ?_⟩
    rw [workers_setThread]
    change Follows hash shard _ (database.workers.moveTo shard condition.point)
    rcases WorkerThread.turn_cases turns with ⟨same, running, between⟩ |
      ⟨waited, resuming, ⟨same, _⟩ | ⟨same, leaves⟩ | ⟨same, _⟩⟩
    · obtain rfl := Turn.wait.inj same
      rw [← workers_loopHead]
      exact follows_between running between (fits.free between)
    · obtain rfl := Turn.wait.inj same
      refine .inl (moveTo_same ?_)
      change (database.threads shard).point = _
      rw [WorkerThread.point, resuming]
    · obtain rfl := Turn.wait.inj same
      rw [← workers_loopHead]
      exact follows_leaves resuming leaves
    · exact Turn.noConfusion same
  · next turns =>
    rcases WorkerThread.turn_cases turns with ⟨same, _⟩ | ⟨waited, resuming, ⟨same, _⟩ | ⟨same, _⟩ |
      ⟨_, due⟩⟩
    · exact Turn.noConfusion same
    · exact Turn.noConfusion same
    · exact Turn.noConfusion same
    · obtain ⟨nextWakeup, rfl, elapsed, first, isFirst, later, come⟩ := due.waited
      have waits : (database.threads shard).waiter.state ≠ .running := by
        rw [resuming]
        simp
      have point : database.workers.points shard = .waitUntil nextWakeup := by
        change (database.threads shard).point = _
        rw [WorkerThread.point, resuming]
        rfl
      have takes : database.workers.take shard = some next.workers := by
        unfold take at taken
        unfold Workers.take
        rw [workers_top]
        split at taken
        · next event system top took =>
          obtain rfl := Option.some.inj taken
          rw [top, show database.workers.system.takeEvent shard = some system from took]
          refine congrArg (fun points => some (Workers.mk system points _)) ?_
          exact (Function.comp_update WorkerThread.point database.threads shard
            ⟨(database.threads shard).waiter.leave, .popping⟩).symm
        · contradiction
      have now : database.workers.system.now = database.system.now := rfl
      refine .inr ⟨taken, waits, ?_⟩
      simp [workerStep, Workers.wakeUntil, point, workers_top, isFirst, now, takes,
        Nat.not_lt.mpr elapsed, Nat.not_lt.mpr later, Nat.not_lt.mpr come]

/-! ## What the other steps do -/

variable {waiter : Option (Waiter ShardWait)}

theorem setWaiter_eq_some : database.setWaiter shard waiter = some next ↔ ∃ changed,
    waiter = some changed ∧
      next = database.setThread shard { database.threads shard with waiter := changed } := by
  unfold setWaiter
  rw [Option.map_eq_some_iff]
  exact exists_congr fun changed => and_congr_right fun _ => eq_comm

/-- A wait that ends or is notified leaves the thread where it is, awake. -/
theorem point_of_notify {changed : Waiter ShardWait}
    (notified : (database.threads shard).waiter.notify = some changed) :
    WorkerThread.point { database.threads shard with waiter := changed } =
      (database.threads shard).point := by
  obtain ⟨condition, left, whole, rfl⟩ := Waiter.notify_eq_some.mp notified
  unfold WorkerThread.point
  rw [whole]

theorem point_of_wake {changed : Waiter ShardWait} {may : ShardWait → Bool}
    (woken : (database.threads shard).waiter.wake may = some changed) :
    WorkerThread.point { database.threads shard with waiter := changed } =
      (database.threads shard).point := by
  obtain ⟨condition, asleep, _, rfl⟩ := Waiter.wake_eq_some.mp woken
  unfold WorkerThread.point
  rw [asleep]

/-- `Pop` gets a connection, or blocks on the empty pool. -/
theorem popConnection_eq_some (taken : database.popConnection shard = some next) :
    (database.threads shard).errand = .popping ∧
      (database.pool.idleConnections = [] ∧
        next = database.setThread shard { database.threads shard with errand := .blocked } ∨
      ∃ rest connection, database.pool.idleConnections = rest ++ [connection] ∧
        next = { database with pool := { database.pool with idleConnections := rest } }.setThread
          shard { database.threads shard with errand := .connected connection }) := by
  unfold popConnection at taken
  split at taken
  · next popping =>
    refine ⟨popping, ?_⟩
    split at taken
    · next empty => exact .inl ⟨DBConnectionPool.pop_eq_none.mp empty, (Option.some.inj taken).symm⟩
    · next connection pool popped =>
      obtain ⟨rest, idle, rfl⟩ := DBConnectionPool.pop_eq_some.mp popped
      exact .inr ⟨rest, connection, idle, (Option.some.inj taken).symm⟩
  · contradiction

theorem wakePool_eq_some : database.wakePool shard = some next ↔
    (database.threads shard).errand = .blocked ∧
      next = database.setThread shard { database.threads shard with errand := .popping } := by
  unfold wakePool
  split
  · next blocked => simp [blocked, eq_comm]
  · next free => simp [free]

theorem spendNotification_eq_some (taken : database.spendNotification = some next) :
    ∃ left, next = { database with pool := { database.pool with notifications := left } } := by
  unfold spendNotification at taken
  split at taken
  · contradiction
  · next left _ => exact ⟨left, (Option.some.inj taken).symm⟩

theorem notifyPoolNobody_eq_some (taken : database.notifyPoolNobody = some next) :
    ∃ left, next = { database with pool := { database.pool with notifications := left } } := by
  unfold notifyPoolNobody at taken
  split at taken
  · exact spendNotification_eq_some taken
  · contradiction

/-- What taking an event does to the threads. -/
theorem take_eq_some (taken : database.take shard = some next) : ∃ event,
    database.system.takeEvent shard = some next.system ∧
      next = { database with
        system := next.system
        threads := Function.update database.threads shard
          ⟨(database.threads shard).waiter.leave, .popping⟩
        log := database.log ++ [.began shard event] } := by
  unfold take at taken
  split at taken
  · next event system _ took =>
    obtain rfl := Option.some.inj taken
    exact ⟨event, took, rfl⟩
  · contradiction

/-- A database call of the thread is one of the worker of its shard. -/
theorem process_eq_some (hash : String → Nat) (taken : database.process shard = some next)
    (fits : (database.threads shard).Fits (database.system.shards shard).working) :
    (∃ connection, (database.threads shard).errand = .connected connection) ∧
      next.threads = database.threads ∧ next.pool = database.pool ∧
      database.system.process shard = some next.system ∧
      workerStep hash (.process shard) database.workers = some next.workers := by
  unfold process at taken
  split at taken
  · next connection event phase connected held =>
    obtain ⟨system, called, rfl⟩ := Option.map_eq_some_iff.mp taken
    refine ⟨⟨connection, connected⟩, rfl, rfl, called, ?_⟩
    have point : database.workers.points shard = .processing := by
      have running : (database.threads shard).waiter.state = .running :=
        fits.awake (by simp [connected]) (by simp [connected])
      change (database.threads shard).point = _
      rw [WorkerThread.point, running, connected]
    have working : (database.workers.system.shards shard).working = some (event, phase) := held
    have same : database.workers.system.process shard = some system := called
    unfold workerStep Workers.process
    dsimp only
    rw [point, working]
    dsimp only
    rw [same]
    rfl
  · contradiction

theorem pushConnection_eq_some (taken : database.pushConnection shard = some next) :
    ∃ connection, (database.threads shard).errand = .connected connection ∧
      (database.system.shards shard).working = none ∧
      next = { database with pool := database.pool.push connection }.setThread shard
        { database.threads shard with errand := .returning } := by
  unfold pushConnection at taken
  split at taken
  · next connection connected free =>
    exact ⟨connection, connected, free, (Option.some.inj taken).symm⟩
  · contradiction

variable {initial : Store collate}

/-! ## Requests -/

/-- A request leaves the threads where they are, and whenever a queue changes a
notification is under way. -/
structure Asks (database next : Database collate) : Prop where
  pool : next.pool = database.pool
  errand : ∀ shard, (next.threads shard).errand = (database.threads shard).errand
  state : ∀ shard, (next.threads shard).waiter.state = (database.threads shard).waiter.state
  working : ∀ shard,
    (next.system.shards shard).working = (database.system.shards shard).working
  notified : ∀ shard, next.queue shard = database.queue shard ∧
    next.threads shard = database.threads shard ∨ 0 < (next.threads shard).waiter.notifications

theorem asks_of_shards {system : System collate}
    (same : system.shards = database.system.shards) :
    Asks database { database with system := system } where
  pool := rfl
  errand _ := rfl
  state _ := rfl
  working shard := by rw [same]
  notified shard := by
    refine .inl ⟨?_, rfl⟩
    unfold queue
    rw [same]

/-- A request that does not push. -/
theorem request_asks {request : Label} (taken : database.request hash request = some next)
    (isRequest : request.isRequest = true) (plain : ∀ index, request ≠ .schedule index) :
    Asks database next := by
  obtain ⟨system, stepped, rfl⟩ := Option.map_eq_some_iff.mp taken
  refine asks_of_shards ?_
  cases request with
  | tick elapsed => rw [← Option.some.inj stepped]
  | issue dbRequest =>
    rw [← Option.some.inj stepped]
    rfl
  | route index =>
    obtain ⟨_, _, _, _, _, rfl⟩ := System.route_cases stepped
    rfl
  | schedule index => exact absurd rfl (plain index)
  | takeEvent shard => contradiction
  | process shard => contradiction

/-- The steps of callers are those of the workers. -/
theorem workers_request {request : Label} (taken : database.request hash request = some next) :
    database.workers.request hash request = some next.workers := by
  obtain ⟨system, stepped, rfl⟩ := Option.map_eq_some_iff.mp taken
  exact Option.map_eq_some_iff.mpr ⟨system, stepped, rfl⟩

theorem schedule_asks (hash : String → Nat) {index : Nat} (taken : database.schedule index = some next) :
    Asks database next ∧ workerStep hash (.schedule index) database.workers = some next.workers := by
  unfold schedule at taken
  split at taken
  · next shard system routed scheduled =>
    obtain rfl := Option.some.inj taken
    obtain ⟨call, target, entry, isTarget, pushed⟩ := System.schedule_cases scheduled
    obtain rfl : target = shard := by
      rw [entry, Option.bind_some, isTarget] at routed
      exact Option.some.inj routed
    have working : ∀ other,
        (system.shards other).working = (database.system.shards other).working := by
      intro other
      rw [pushed]
      by_cases here : other = target
      · subst here
        simp
      · simp [here]
    have point : WorkerThread.point { database.threads target with
        waiter := (database.threads target).waiter.signal } = (database.threads target).point := rfl
    refine ⟨⟨rfl, fun other => ?_, fun other => ?_, working, fun other => ?_⟩, ?_⟩
    · by_cases here : other = target
      · subst here
        rw [threads_setThread_self]
      · rw [threads_setThread_of_ne here]
    · by_cases here : other = target
      · subst here
        rw [threads_setThread_self]
        rfl
      · rw [threads_setThread_of_ne here]
    · by_cases here : other = target
      · subst here
        rw [threads_setThread_self]
        exact .inr (Nat.succ_pos _)
      · refine .inl ⟨?_, threads_setThread_of_ne here⟩
        change (system.shards other).events.elements = (database.system.shards other).events.elements
        rw [pushed]
        dsimp only
        rw [Function.update_of_ne here]
    · rw [workers_setThread, moveTo_same point.symm]
      exact Option.map_eq_some_iff.mpr ⟨system, scheduled, rfl⟩
  · contradiction

/-! ## The invariant -/

/-- What holds in every state of the threads: the abstract workers are sound,
no thread sleeps on a condition that holds without a notification under way,
and each thread's errand fits the event it works on. -/
structure Sound (hash : String → Nat) (initial : Store collate) (database : Database collate) :
    Prop where
  workers : DBThread.Sound hash initial database.workers
  alert : ∀ shard, (database.threads shard).waiter.Alert fun condition =>
    condition.holds (database.queue shard) = true
  fits : ∀ shard, (database.threads shard).Fits (database.system.shards shard).working

/-- The threads have not looked at their queues. -/
theorem boot_sound (hash : String → Nat) (initial : Store collate) (attempts : List (Option Nat)) :
    Sound hash initial (boot initial attempts) where
  workers := DBThread.boot_sound hash initial
  alert _ := (Waiter.awake_running 0).alert
  fits _ := ⟨fun _ => rfl, fun _ _ => rfl⟩

/-- What the shard workers keep when they follow. -/
theorem Sound.follows (sound : Sound hash initial database)
    (follows : Follows hash shard database.workers next.workers) :
    DBThread.Sound hash initial next.workers := by
  rcases follows with same | ⟨label, _, _, stepped⟩
  · exact same ▸ sound.workers
  · exact sound.workers.step stepped

/-- One thread changes, and the pool may. -/
theorem Sound.setThread {thread : WorkerThread} (sound : Sound hash initial database)
    (workers : DBThread.Sound hash initial (database.setThread shard thread).workers)
    (alert : thread.waiter.Alert fun condition => condition.holds (database.queue shard) = true)
    (fits : thread.Fits (database.system.shards shard).working) (pool : DBConnectionPool) :
    Sound hash initial ({ database with pool := pool }.setThread shard thread) where
  workers := workers
  alert other := by
    by_cases here : other = shard
    · subst here
      rwa [threads_setThread_self]
    · rw [threads_setThread_of_ne here]
      exact sound.alert other
  fits other := by
    by_cases here : other = shard
    · subst here
      rwa [threads_setThread_self]
    · rw [threads_setThread_of_ne here]
      exact sound.fits other

/-- One thread changes where it is. -/
theorem Sound.stir (sound : Sound hash initial database) (thread : WorkerThread)
    (same : thread.point = (database.threads shard).point)
    (alert : thread.waiter.Alert fun condition => condition.holds (database.queue shard) = true)
    (fits : thread.Fits (database.system.shards shard).working) (pool : DBConnectionPool) :
    Sound hash initial ({ database with pool := pool }.setThread shard thread) := by
  refine sound.setThread ?_ alert fits pool
  rw [workers_setThread, moveTo_same same.symm]
  exact sound.workers

theorem fits_congr {working : Option (DbEvent × LoginPhase)} {first second : WorkerThread}
    (fits : first.Fits working) (errand : second.errand = first.errand)
    (state : second.waiter.state = first.waiter.state) : second.Fits working := by
  constructor
  · rw [errand]
    exact fits.free
  · rw [errand, state]
    exact fits.awake

theorem Sound.asks (sound : Sound hash initial database) (asks : Asks database next)
    (workers : DBThread.Sound hash initial next.workers) : Sound hash initial next where
  workers := workers
  alert shard := by
    rcases asks.notified shard with ⟨queue, thread⟩ | signalled
    · rw [queue, thread]
      exact sound.alert shard
    · exact fun _ _ _ => signalled
  fits shard := by
    rw [asks.working shard]
    exact fits_congr (sound.fits shard) (asks.errand shard) (asks.state shard)

theorem Sound.take (sound : Sound hash initial database) (taken : database.take shard = some next)
    (workers : DBThread.Sound hash initial next.workers) : Sound hash initial next := by
  obtain ⟨event, took, same⟩ := take_eq_some taken
  obtain ⟨_, first, rest, _, system⟩ := System.takeEvent_cases took
  have thread : next.threads shard = ⟨(database.threads shard).waiter.leave, .popping⟩ := by
    rw [same]
    exact Function.update_self _ _ _
  have elsewhere : ∀ other, other ≠ shard → next.threads other = database.threads other ∧
      next.system.shards other = database.system.shards other := by
    intro other different
    rw [system]
    refine ⟨?_, Function.update_of_ne different _ _⟩
    rw [same]
    exact Function.update_of_ne different _ _
  refine ⟨workers, fun other => ?_, fun other => ?_⟩
  · by_cases here : other = shard
    · subst here
      rw [thread]
      exact (Waiter.awake_running _).alert
    · rw [(elsewhere other here).1, queue, (elsewhere other here).2]
      exact sound.alert other
  · by_cases here : other = shard
    · subst here
      rw [thread]
      exact ⟨fun between => by simp at between, fun _ _ => rfl⟩
    · rw [(elsewhere other here).1, (elsewhere other here).2]
      exact sound.fits other

theorem Sound.process (sound : Sound hash initial database)
    (taken : database.process shard = some next) : Sound hash initial next := by
  obtain ⟨⟨connection, connected⟩, threads, _, called, stepped⟩ :=
    process_eq_some hash taken (sound.fits shard)
  obtain ⟨_, _, _, _, _, _, _, working, shards, _⟩ := System.process_cases called
  refine ⟨sound.workers.step stepped, fun other => ?_, fun other => ?_⟩
  · have queue : next.queue other = database.queue other := by
      rw [queue, queue, shards]
      by_cases here : other = shard
      · subst here
        simp
      · simp [here]
    rw [threads, queue]
    exact sound.alert other
  · rw [threads]
    by_cases here : other = shard
    · subst here
      exact ⟨fun between => by simp [connected] at between, (sound.fits other).awake⟩
    · rw [shards, Function.update_of_ne here]
      exact sound.fits other

theorem fits_of_waiting {working : Option (DbEvent × LoginPhase)} {thread : WorkerThread}
    (fits : thread.Fits working) (waits : thread.waiter.state ≠ .running)
    (waiter : Waiter ShardWait) : WorkerThread.Fits working { thread with waiter := waiter } :=
  ⟨fits.free, fun starting returning => absurd (fits.awake starting returning) waits⟩

/-- A wait ends, or a notification comes to nobody. -/
theorem Sound.setWaiter (sound : Sound hash initial database) {waiter : Waiter ShardWait}
    (awake : waiter.Awake)
    (same : WorkerThread.point { database.threads shard with waiter := waiter } =
      (database.threads shard).point)
    (state : waiter.state = (database.threads shard).waiter.state ∨
      (database.threads shard).waiter.state ≠ .running) :
    Sound hash initial
      (database.setThread shard { database.threads shard with waiter := waiter }) := by
  refine sound.stir _ same awake.alert ?_ database.pool
  rcases state with unchanged | waits
  · exact fits_congr (sound.fits shard) rfl unchanged
  · exact fits_of_waiting (sound.fits shard) waits waiter

theorem Sound.notify (sound : Sound hash initial database)
    (taken : database.setWaiter shard (database.threads shard).waiter.notify = some next) :
    Sound hash initial next := by
  obtain ⟨waiter, notified, rfl⟩ := setWaiter_eq_some.mp taken
  refine sound.setWaiter (Waiter.awake_of_notify notified) (point_of_notify notified) (.inr ?_)
  obtain ⟨condition, left, whole, _⟩ := Waiter.notify_eq_some.mp notified
  rw [whole]
  simp

/-- A notification that finds nobody asleep is not needed. -/
theorem Sound.notifyNobody (sound : Sound hash initial database)
    (taken : database.setWaiter shard (database.threads shard).waiter.notifyNobody = some next) :
    Sound hash initial next := by
  obtain ⟨waiter, lost, rfl⟩ := setWaiter_eq_some.mp taken
  have awake := Waiter.awake_of_notifyNobody lost
  obtain ⟨_, left, _, rfl⟩ := Waiter.notifyNobody_eq_some.mp lost
  exact sound.setWaiter awake rfl (.inl rfl)

/-- A spurious wake-up or a timeout does no harm. -/
theorem Sound.wake {may : ShardWait → Bool} (sound : Sound hash initial database)
    (taken : database.setWaiter shard ((database.threads shard).waiter.wake may) = some next) :
    Sound hash initial next := by
  obtain ⟨waiter, woken, rfl⟩ := setWaiter_eq_some.mp taken
  refine sound.setWaiter (Waiter.awake_of_wake woken) (point_of_wake woken) (.inr ?_)
  obtain ⟨condition, asleep, _, _⟩ := Waiter.wake_eq_some.mp woken
  rw [asleep]
  simp

/-- A thread that processes an event goes on with its errand. -/
structure Proceeds (shard : ShardIndex) (errand : Errand) (database next : Database collate) :
    Prop where
  starting : (database.threads shard).errand ≠ .starting
  returning : (database.threads shard).errand ≠ .returning
  stays : errand ≠ .starting
  free : errand = .returning → (database.system.shards shard).working = none
  moved : ∃ pool, next = { database with pool := pool }.setThread shard
    { database.threads shard with errand := errand }

theorem popConnection_proceeds (taken : database.popConnection shard = some next) :
    Proceeds shard .blocked database next ∨
      ∃ connection, Proceeds shard (.connected connection) database next := by
  obtain ⟨popping, ⟨_, moved⟩ | ⟨rest, connection, _, moved⟩⟩ := popConnection_eq_some taken
  · exact .inl ⟨by simp [popping], by simp [popping], by simp, by simp, database.pool, moved⟩
  · refine .inr ⟨connection, by simp [popping], by simp [popping], by simp, by simp, ?_⟩
    exact ⟨_, moved⟩

theorem wakePool_proceeds (taken : database.wakePool shard = some next) :
    Proceeds shard .popping database next := by
  obtain ⟨blocked, moved⟩ := wakePool_eq_some.mp taken
  exact ⟨by simp [blocked], by simp [blocked], by simp, by simp, database.pool, moved⟩

theorem notifyPool_blocked (taken : database.spendNotification.bind (wakePool shard) = some next) :
    (database.threads shard).errand = .blocked := by
  obtain ⟨spent, spends, woken⟩ := Option.bind_eq_some_iff.mp taken
  obtain ⟨left, rfl⟩ := spendNotification_eq_some spends
  exact (wakePool_eq_some.mp woken).1

theorem notifyPool_proceeds (taken : database.spendNotification.bind (wakePool shard) = some next) :
    Proceeds shard .popping database next := by
  obtain ⟨spent, spends, woken⟩ := Option.bind_eq_some_iff.mp taken
  obtain ⟨left, rfl⟩ := spendNotification_eq_some spends
  obtain ⟨starting, returning, stays, free, pool, moved⟩ := wakePool_proceeds woken
  exact ⟨starting, returning, stays, free, pool, moved⟩

theorem pushConnection_proceeds (taken : database.pushConnection shard = some next) :
    Proceeds shard .returning database next := by
  obtain ⟨connection, connected, free, moved⟩ := pushConnection_eq_some taken
  exact ⟨by simp [connected], by simp [connected], by simp, fun _ => free, _, moved⟩

theorem Proceeds.point {errand : Errand} (proceeds : Proceeds shard errand database next)
    (sound : Sound hash initial database) :
    WorkerThread.point { database.threads shard with errand := errand } =
      (database.threads shard).point := by
  have starting := proceeds.starting
  have stays := proceeds.stays
  have running := (sound.fits shard).awake starting proceeds.returning
  unfold WorkerThread.point
  simp only [running]

/-- The errands of a thread are no steps of its worker. -/
theorem Proceeds.workers {errand : Errand} (proceeds : Proceeds shard errand database next)
    (sound : Sound hash initial database) : next.workers = database.workers := by
  obtain ⟨pool, rfl⟩ := proceeds.moved
  rw [workers_setThread]
  exact moveTo_same (proceeds.point sound).symm

theorem Sound.proceeds {errand : Errand} (sound : Sound hash initial database)
    (proceeds : Proceeds shard errand database next) : Sound hash initial next := by
  have running := (sound.fits shard).awake proceeds.starting proceeds.returning
  have fits : WorkerThread.Fits (database.system.shards shard).working
      { database.threads shard with errand := errand } := by
    refine ⟨?_, fun _ _ => running⟩
    rintro (begins | returns)
    · exact absurd begins proceeds.stays
    · exact proceeds.free returns
  have point := proceeds.point sound
  obtain ⟨pool, rfl⟩ := proceeds.moved
  exact sound.stir _ point (sound.alert shard) fits pool

theorem Sound.pool (sound : Sound hash initial database) (pool : DBConnectionPool) :
    Sound hash initial { database with pool := pool } :=
  ⟨sound.workers, sound.alert, sound.fits⟩

/-- A thread with the lock of its shard keeps the threads sound. -/
theorem Sound.lock (sound : Sound hash initial database)
    (taken : database.lock shard = some next) : Sound hash initial next := by
  rcases lock_cases hash taken (sound.fits shard) with ⟨condition, turns, rfl, follows⟩ |
    ⟨took, _, stepped⟩
  · have unmet := WorkerThread.unmet_of_turn turns
    refine sound.setThread (sound.follows follows) ?_ ?_ database.pool
    · exact Waiter.alert_sleep (unmet ▸ Bool.false_ne_true)
    · refine ⟨(sound.fits shard).free, fun starting returning => ?_⟩
      have running := (sound.fits shard).awake starting returning
      rcases WorkerThread.turn_cases turns with ⟨_, _, begins | returns⟩ | ⟨_, resuming, _⟩
      · exact absurd begins starting
      · exact absurd returns returning
      · rw [running] at resuming
        contradiction
  · exact sound.take took (sound.workers.step stepped)

theorem Sound.step {label : ThreadLabel} (sound : Sound hash initial database)
    (taken : step hash label database = some next) : Sound hash initial next := by
  cases label with
  | tick elapsed =>
    have stepped : workerStep hash (.tick elapsed) database.workers = _ := workers_request taken
    exact sound.asks (request_asks taken rfl (by simp)) (sound.workers.step stepped)
  | issue dbRequest =>
    have stepped : workerStep hash (.issue dbRequest) database.workers = _ := workers_request taken
    exact sound.asks (request_asks taken rfl (by simp)) (sound.workers.step stepped)
  | route index =>
    have stepped : workerStep hash (.route index) database.workers = _ := workers_request taken
    exact sound.asks (request_asks taken rfl (by simp)) (sound.workers.step stepped)
  | schedule index =>
    obtain ⟨asks, stepped⟩ := schedule_asks hash taken
    exact sound.asks asks (sound.workers.step stepped)
  | notify shard => exact sound.notify taken
  | notifyNobody shard => exact sound.notifyNobody taken
  | wakeSpuriously shard => exact sound.wake taken
  | timeOut shard => exact sound.wake taken
  | lock shard => exact sound.lock taken
  | popConnection shard =>
    rcases popConnection_proceeds taken with proceeds | ⟨connection, proceeds⟩
    · exact sound.proceeds proceeds
    · exact sound.proceeds proceeds
  | notifyPool shard => exact sound.proceeds (notifyPool_proceeds taken)
  | notifyPoolNobody =>
    obtain ⟨left, rfl⟩ := notifyPoolNobody_eq_some taken
    exact sound.pool _
  | wakePool shard => exact sound.proceeds (wakePool_proceeds taken)
  | process shard => exact sound.process taken
  | pushConnection shard => exact sound.proceeds (pushConnection_proceeds taken)

/-! ## Refinement -/

/-- The shard workers match every step of the threads. -/
theorem simulates : Simulates (@step collate hash) (workerStep hash) visible WorkerLabel.visible
    fun database workers => Sound hash initial database ∧ workers = database.workers := by
  rintro label database next _ taken ⟨sound, rfl⟩
  have kept := sound.step taken
  have silently : next.workers = database.workers → ∃ labels following,
      run (workerStep hash) labels database.workers = some following ∧
        labels.flatMap WorkerLabel.visible = [] ∧ Sound hash initial next ∧
          following = next.workers := fun same => simulated_silently ⟨kept, same.symm⟩
  have once : ∀ workerLabel, workerStep hash workerLabel database.workers = some next.workers →
      ∃ labels following, run (workerStep hash) labels database.workers = some following ∧
        labels.flatMap WorkerLabel.visible = workerLabel.visible ∧ Sound hash initial next ∧
          following = next.workers := fun workerLabel stepped =>
    simulated_once stepped ⟨kept, rfl⟩
  have stays : ∀ {shard : ShardIndex} {thread : WorkerThread} {pool : DBConnectionPool},
      thread.point = (database.threads shard).point →
      ({ database with pool := pool }.setThread shard thread).workers = database.workers :=
    fun same => (workers_setThread _ _ _).trans (moveTo_same same.symm)
  cases label with
  | tick elapsed => exact once (.tick elapsed) (workers_request taken)
  | issue dbRequest => exact once (.issue dbRequest) (workers_request taken)
  | route index => exact once (.route index) (workers_request taken)
  | schedule index => exact once (.schedule index) (schedule_asks hash taken).2
  | notify shard =>
    obtain ⟨waiter, notified, rfl⟩ := setWaiter_eq_some.mp taken
    exact silently (stays (point_of_notify notified))
  | notifyNobody shard =>
    obtain ⟨waiter, lost, rfl⟩ := setWaiter_eq_some.mp taken
    obtain ⟨_, left, _, rfl⟩ := Waiter.notifyNobody_eq_some.mp lost
    exact silently (stays rfl)
  | wakeSpuriously shard =>
    obtain ⟨waiter, woken, rfl⟩ := setWaiter_eq_some.mp taken
    exact silently (stays (point_of_wake woken))
  | timeOut shard =>
    obtain ⟨waiter, woken, rfl⟩ := setWaiter_eq_some.mp taken
    exact silently (stays (point_of_wake woken))
  | lock shard =>
    rcases lock_cases hash taken (sound.fits shard) with
      ⟨_, _, _, same | ⟨workerLabel, _, shows, stepped⟩⟩ | ⟨_, _, stepped⟩
    · exact silently same
    · obtain ⟨labels, following, ran, shown, related⟩ := once workerLabel stepped
      exact ⟨labels, following, ran, shown.trans shows, related⟩
    · exact once (.wakeUntil shard) stepped
  | popConnection shard =>
    rcases popConnection_proceeds taken with proceeds | ⟨connection, proceeds⟩
    · exact silently (proceeds.workers sound)
    · exact silently (proceeds.workers sound)
  | notifyPool shard => exact silently ((notifyPool_proceeds taken).workers sound)
  | notifyPoolNobody =>
    obtain ⟨left, rfl⟩ := notifyPoolNobody_eq_some taken
    exact silently rfl
  | wakePool shard => exact silently ((wakePool_proceeds taken).workers sound)
  | process shard =>
    exact once (.process shard) (process_eq_some hash taken (sound.fits shard)).2.2.2.2
  | pushConnection shard => exact silently ((pushConnection_proceeds taken).workers sound)

end Database

end Mmorpg.DBThread
