import Mmorpg.Database.WorkerTurns

/-!
# Every event is served

The connections are with one thread each, and with one for every shard no
thread ever waits in `Pop`.  Under weak fairness every event is processed;
without connections none is.
-/

namespace Mmorpg.DBThread

open Transition

variable {collate : String → String} {hash : String → Nat} {initial : Store collate}

namespace Database

variable {database next : Database collate} {shard : ShardIndex}

/-! ## The connections -/

/-- The connection a shard's thread holds. -/
def connections (database : Database collate) (shard : ShardIndex) : Option Nat :=
  (database.threads shard).connection

/-- Every connection is idle or with one thread, and no thread waits for one. -/
structure Lends (owned : List Nat) (database : Database collate) : Prop where
  lent : Lent owned database.pool.idleConnections database.connections
  unblocked : ∀ shard, (database.threads shard).errand ≠ .blocked

variable {owned : List Nat}

/-- Errands decide what a thread holds. -/
theorem Lends.congr (lends : Lends owned database)
    (idle : next.pool.idleConnections = database.pool.idleConnections)
    (errand : ∀ shard, (next.threads shard).errand = (database.threads shard).errand) :
    Lends owned next where
  lent := by
    have same : next.connections = database.connections := by
      funext shard
      unfold connections WorkerThread.connection
      rw [errand]
    rw [idle, same]
    exact lends.lent
  unblocked shard := by
    rw [errand]
    exact lends.unblocked shard

/-- What a changed thread keeps all threads keep. -/
theorem apply_setThread {β : Type} (kept : WorkerThread → β) {thread : WorkerThread}
    (same : kept thread = kept (database.threads shard)) (other : ShardIndex) :
    kept ((database.setThread shard thread).threads other) = kept (database.threads other) := by
  by_cases here : other = shard
  · subst here
    rwa [threads_setThread_self]
  · rw [threads_setThread_of_ne here]

/-- A thread that changes its errand changes what it holds. -/
theorem connections_setThread {thread : WorkerThread} :
    (database.setThread shard thread).connections =
      Function.update database.connections shard thread.connection :=
  Function.comp_update WorkerThread.connection database.threads shard thread

theorem unblocked_setThread {thread : WorkerThread}
    (unblocked : ∀ other, (database.threads other).errand ≠ .blocked)
    (free : thread.errand ≠ .blocked) (other : ShardIndex) :
    ((database.setThread shard thread).threads other).errand ≠ .blocked := by
  by_cases here : other = shard
  · subst here
    rwa [threads_setThread_self]
  · rw [threads_setThread_of_ne here]
    exact unblocked other

/-- As long as there are connections for all threads, `Pop` finds one. -/
theorem Lends.popConnection (lends : Lends owned database) (distinct : owned.Nodup)
    (enough : kShardCount ≤ owned.length) (taken : database.popConnection shard = some next) :
    Lends owned next := by
  obtain ⟨popping, ⟨empty, rfl⟩ | ⟨rest, connection, idle, rfl⟩⟩ := popConnection_eq_some taken
  all_goals
    have free : database.connections shard = none := by
      rw [connections, WorkerThread.connection, popping]
  · have plenty : Fintype.card ShardIndex ≤ owned.length := (Fintype.card_fin 8).le.trans enough
    exact absurd empty (lends.lent.exists_idle distinct plenty free)
  · refine ⟨?_, fun other => ?_⟩
    · have lent := lends.lent
      rw [idle] at lent
      exact connections_setThread ▸ lent.borrow free
    · exact unblocked_setThread lends.unblocked (by simp) other

/-- A connection that is returned is idle again. -/
theorem Lends.pushConnection (lends : Lends owned database)
    (taken : database.pushConnection shard = some next) : Lends owned next := by
  obtain ⟨connection, connected, _, rfl⟩ := pushConnection_eq_some taken
  have holds : database.connections shard = some connection := by
    rw [connections, WorkerThread.connection, connected]
  refine ⟨connections_setThread ▸ lends.lent.giveBack holds, fun other => ?_⟩
  exact unblocked_setThread lends.unblocked (by simp) other

/-- A thread that sleeps or takes an event holds no connection before and
after. -/
theorem Lends.lock (lends : Lends owned database) (sound : Sound hash initial database)
    (taken : database.lock shard = some next) : Lends owned next := by
  rcases lock_cases hash taken (sound.fits shard) with ⟨condition, _, rfl, _⟩ | ⟨took, waits, _⟩
  · exact lends.congr rfl (apply_setThread WorkerThread.errand rfl)
  · obtain ⟨event, _, same⟩ := take_eq_some took
    have threads : next.threads =
        (database.setThread shard ⟨(database.threads shard).waiter.leave, .popping⟩).threads := by
      rw [same]
      rfl
    have idle : next.pool = database.pool := by rw [same]
    have free : database.connections shard = none := by
      unfold connections WorkerThread.connection
      split
      · next connection connected =>
        refine absurd ((sound.fits shard).awake ?_ ?_) waits <;> simp [connected]
      · rfl
    have before : next.connections = database.connections := by
      have moved : next.connections = Function.update database.connections shard none := by
        unfold connections
        rw [threads]
        exact connections_setThread
      rw [moved, ← free, Function.update_eq_self]
    refine ⟨?_, fun other => ?_⟩
    · rw [idle, before]
      exact lends.lent
    · rw [threads]
      exact unblocked_setThread lends.unblocked (by simp) other

theorem Lends.step {label : ThreadLabel} (lends : Lends owned database) (distinct : owned.Nodup)
    (enough : kShardCount ≤ owned.length) (sound : Sound hash initial database)
    (taken : Database.step hash label database = some next) : Lends owned next := by
  have asked : ∀ {request : Label}, database.request hash request = some next →
      Lends owned next := by
    intro request asks
    obtain ⟨system, _, rfl⟩ := Option.map_eq_some_iff.mp asks
    exact lends.congr rfl fun _ => rfl
  have waits : ∀ {shard : ShardIndex} {waiter : Option (Waiter ShardWait)},
      database.setWaiter shard waiter = some next → Lends owned next := by
    intro shard waiter changes
    obtain ⟨changed, _, rfl⟩ := setWaiter_eq_some.mp changes
    exact lends.congr rfl (apply_setThread WorkerThread.errand rfl)
  cases label with
  | tick elapsed => exact asked taken
  | issue dbRequest => exact asked taken
  | route index => exact asked taken
  | schedule index =>
    have asks := (schedule_asks hash taken).1
    exact lends.congr (congrArg _ asks.pool) asks.errand
  | notify shard => exact waits taken
  | notifyNobody shard => exact waits taken
  | wakeSpuriously shard => exact waits taken
  | timeOut shard => exact waits taken
  | lock shard => exact lends.lock sound taken
  | popConnection shard => exact lends.popConnection distinct enough taken
  | notifyPool shard => exact absurd (notifyPool_blocked taken) (lends.unblocked shard)
  | notifyPoolNobody =>
    obtain ⟨left, rfl⟩ := notifyPoolNobody_eq_some taken
    exact lends.congr rfl fun _ => rfl
  | wakePool shard => exact absurd (wakePool_eq_some.mp taken).1 (lends.unblocked shard)
  | process shard =>
    obtain ⟨_, threads, pool, _⟩ := process_eq_some hash taken (sound.fits shard)
    exact lends.congr (congrArg _ pool) fun other => by rw [threads]
  | pushConnection shard => exact lends.pushConnection taken

/-! ## Every event is finished -/

variable {event : DbEvent}

/-- Steps of the thread before the worker of its shard moves on. -/
def unrest (shard : ShardIndex) (database : Database collate) : Nat :=
  match (database.threads shard).waiter.state with
  | .asleep _ => 1
  | .resuming _ => 0
  | .running =>
      match (database.threads shard).errand with
      | .blocked => 3
      | .popping => 2
      | .connected _ => 1
      | _ => 0

/-- The waiting of a thread takes at most three steps. -/
theorem unrest_le (shard : ShardIndex) (database : Database collate) :
    database.unrest shard ≤ 3 := by
  unfold unrest
  split
  · simp
  · simp
  · split <;> simp

/-- A thread that does not move comes no nearer. -/
theorem unrest_congr (errand : (next.threads shard).errand = (database.threads shard).errand)
    (state : (next.threads shard).waiter.state = (database.threads shard).waiter.state) :
    next.unrest shard = database.unrest shard := by
  unfold unrest
  rw [errand, state]

/-- A bound on the steps until an event is served: four for each turn of the
workers ahead of it, and the steps of the thread's own waiting. -/
def remaining (shard : ShardIndex) (event : DbEvent) (database : Database collate) : Nat :=
  4 * database.workers.remaining shard event + database.unrest shard

/-- What a wait is for has come as soon as an event is queued. -/
theorem Sound.ended (sound : Sound hash initial database) {condition : ShardWait}
    (waits : event ∈ database.queue shard)
    (point : (database.threads shard).point = condition.point) :
    condition.holds (database.queue shard) = true ∨
      condition.isOver database.system.now = true := by
  cases condition with
  | forEvents =>
    left
    simpa [ShardWait.holds] using List.ne_nil_of_mem waits
  | forWakeup nextWakeup =>
    right
    exact decide_eq_true (sound.workers.timed shard nextWakeup point)

/-- With an event in its queue the thread that gets the lock makes the worker of
its shard move. -/
theorem Sound.lock_moves (sound : Sound hash initial database)
    (waits : event ∈ database.queue shard) (taken : database.lock shard = some next) :
    ∃ label : WorkerLabel, label.worker = some shard ∧
      workerStep hash label database.workers = some next.workers := by
  rcases lock_cases hash taken (sound.fits shard) with
    ⟨condition, turns, rfl, same | ⟨label, worker, _, stepped⟩⟩ | ⟨_, _, stepped⟩
  · exfalso
    have points := congrFun (congrArg Workers.points same) shard
    have here : condition.point = (database.threads shard).point := by
      rw [workers_setThread, Workers.moveTo_points, if_pos rfl] at points
      exact points
    have unmet := WorkerThread.unmet_of_turn turns
    rcases sound.ended waits here.symm with met | elapsed
    · exact absurd met (unmet ▸ Bool.false_ne_true)
    · exact absurd elapsed (WorkerThread.early_of_turn turns here ▸ Bool.false_ne_true)
  · exact ⟨label, worker, stepped⟩
  · exact ⟨.wakeUntil shard, rfl, stepped⟩

/-- A worker that is free takes an event that is due. -/
theorem exists_take {first : DbEvent} (isFirst : (database.queue shard).head? = some first)
    (come : first.stamp.wakeupTime ≤ database.system.now)
    (free : (database.system.shards shard).working = none) :
    ∃ next, database.take shard = some next := by
  obtain ⟨rest, popped⟩ : ∃ rest,
      (database.system.shards shard).events.pop = some (first, rest) := by
    rcases shape : (database.system.shards shard).events with ⟨elements, ordered⟩
    rw [queue, shape] at isFirst
    obtain ⟨later, rfl⟩ := List.head?_eq_some_iff.mp isFirst
    exact ⟨_, rfl⟩
  have took : ∃ system, database.system.takeEvent shard = some system := by
    unfold System.takeEvent
    simp only [free, popped, if_pos come]
    exact ⟨_, rfl⟩
  obtain ⟨system, took⟩ := took
  unfold Database.take
  rw [isFirst, took]
  exact ⟨_, rfl⟩

/-- A thread between two events can use the lock. -/
theorem Sound.exists_lock (sound : Sound hash initial database)
    (ready : (∃ condition, (database.threads shard).waiter.state = .resuming condition) ∨
      (database.threads shard).waiter.state = .running ∧
        ((database.threads shard).errand = .starting ∨
          (database.threads shard).errand = .returning)) :
    ∃ next, database.lock shard = some next := by
  obtain ⟨turn, turns⟩ : ∃ turn, (database.threads shard).turn (database.queue shard)
      database.system.now = some turn := by
    unfold WorkerThread.turn
    rcases ready with ⟨condition, resuming⟩ | ⟨running, starting | returning⟩
    · rw [resuming]
      dsimp only
      split
      · split
        · split <;> exact ⟨_, rfl⟩
        · exact ⟨_, rfl⟩
      · exact ⟨_, rfl⟩
    · rw [running, starting]
      exact ⟨_, rfl⟩
    · rw [running, returning]
      exact ⟨_, rfl⟩
  unfold Database.lock
  rw [turns]
  cases turn with
  | wait condition => exact ⟨_, rfl⟩
  | take =>
    rcases WorkerThread.turn_cases turns with ⟨same, _⟩ | ⟨waited, resuming, ⟨same, _⟩ | ⟨same, _⟩ |
      ⟨_, due⟩⟩
    · exact Turn.noConfusion same
    · exact Turn.noConfusion same
    · exact Turn.noConfusion same
    · obtain ⟨_, _, _, first, isFirst, _, come⟩ := due.waited
      have free := (sound.fits shard).idle (by rw [resuming]; simp)
      exact exists_take isFirst come free

/-- Until an event is finished the thread of its shard can move. -/
theorem Sound.enabled (sound : Sound hash initial database) (lends : Lends owned database)
    (pushed : (shard, event) ∈ database.system.pushed)
    (unfinished : .finished shard event ∉ database.log) :
    ∃ label : ThreadLabel, label.own shard ∧ Database.step hash label database ≠ none := by
  have moves : ∀ label : ThreadLabel, label.own shard →
      (∃ next, Database.step hash label database = some next) →
      ∃ label : ThreadLabel, label.own shard ∧ Database.step hash label database ≠ none := by
    rintro label own ⟨next, taken⟩
    exact ⟨label, own, taken ▸ Option.some_ne_none next⟩
  rcases state : (database.threads shard).waiter.state with _ | condition | condition
  · rcases errand : (database.threads shard).errand with _ | _ | _ | connection | _
    · exact moves (.lock shard) rfl (sound.exists_lock (.inr ⟨state, .inl errand⟩))
    · refine moves (.popConnection shard) rfl ?_
      change ∃ next, database.popConnection shard = some next
      unfold Database.popConnection
      rw [errand]
      dsimp only
      split <;> exact ⟨_, rfl⟩
    · exact absurd errand (lends.unblocked shard)
    · rcases working : (database.system.shards shard).working with _ | ⟨held, phase⟩
      · refine moves (.pushConnection shard) rfl ?_
        change ∃ next, database.pushConnection shard = some next
        unfold Database.pushConnection
        rw [errand, working]
        exact ⟨_, rfl⟩
      · refine moves (.process shard) rfl ?_
        change ∃ next, database.process shard = some next
        obtain ⟨system, called⟩ := Option.ne_none_iff_exists'.mp (System.process_isSome working)
        unfold Database.process
        rw [errand, working, called]
        exact ⟨_, rfl⟩
    · exact moves (.lock shard) rfl (sound.exists_lock (.inr ⟨state, .inr errand⟩))
  · have free := (sound.fits shard).idle (by rw [state]; simp)
    have waits : event ∈ database.queue shard := sound.workers.waits pushed unfinished free
    have point : (database.threads shard).point = condition.point := by
      rw [WorkerThread.point, state]
    rcases sound.ended waits point with met | elapsed
    · obtain ⟨waiter, notified⟩ := (sound.alert shard).exists_notify state met
      exact moves (.notify shard) rfl ⟨_, setWaiter_eq_some.mpr ⟨waiter, notified, rfl⟩⟩
    · have woken := Waiter.wake_eq_some.mpr ⟨condition, state, elapsed, rfl⟩
      exact moves (.timeOut shard) rfl ⟨_, setWaiter_eq_some.mpr ⟨_, woken, rfl⟩⟩
  · exact moves (.lock shard) rfl (sound.exists_lock (.inl ⟨condition, state⟩))

/-- A step finishes the event or brings it no further from its end, and closer
when the thread of its shard makes it. -/
def Nears (shard : ShardIndex) (event : DbEvent) (label : ThreadLabel)
    (database next : Database collate) : Prop :=
  .finished shard event ∈ next.log ∨
    (next.remaining shard event ≤ database.remaining shard event ∧
      (label.own shard → next.remaining shard event < database.remaining shard event))

variable {label : ThreadLabel}

/-- The worker of the shard moves, or another one without the thread. -/
theorem Sound.nears_of_moved (sound : Sound hash initial database) {workerLabel : WorkerLabel}
    (stepped : workerStep hash workerLabel database.workers = some next.workers)
    (which : workerLabel.worker = some shard ∨
      next.unrest shard = database.unrest shard ∧ ¬label.own shard)
    (pushed : (shard, event) ∈ database.system.pushed)
    (unfinished : .finished shard event ∉ database.log) :
    Nears shard event label database next := by
  have bound := unrest_le shard next
  rcases sound.workers.remaining_step stepped pushed unfinished with done | ⟨lower, strictly⟩
  · exact .inl done
  · refine .inr ?_
    unfold Database.remaining
    rcases which with own | ⟨same, foreign⟩
    · have less := strictly own
      omega
    · exact ⟨by omega, fun own => absurd own foreign⟩

/-- The thread comes closer to the next move of its worker, or another one
moves. -/
theorem nears_of_quiet (same : next.workers = database.workers)
    (which : next.unrest shard < database.unrest shard ∨
      next.unrest shard = database.unrest shard ∧ ¬label.own shard) :
    Nears shard event label database next := by
  refine .inr ?_
  unfold Database.remaining
  rw [same]
  rcases which with less | ⟨equal, foreign⟩
  · omega
  · exact ⟨by omega, fun own => absurd own foreign⟩

/-- Another thread has changed. -/
theorem unrest_setThread {other : ShardIndex} {thread : WorkerThread} {pool : DBConnectionPool}
    (different : other ≠ shard) :
    ({ database with pool := pool }.setThread other thread).unrest shard =
      database.unrest shard := by
  have same : ({ database with pool := pool }.setThread other thread).threads shard =
      database.threads shard := threads_setThread_of_ne different.symm
  exact unrest_congr (congrArg _ same) (congrArg (fun thread => thread.waiter.state) same)

/-- A sleeping thread wakes up. -/
theorem unrest_wake {condition : ShardWait} {waiter : Waiter ShardWait}
    (asleep : (database.threads shard).waiter.state = .asleep condition)
    (resuming : waiter.state = .resuming condition) :
    (database.setThread shard { database.threads shard with waiter := waiter }).unrest shard <
      database.unrest shard := by
  unfold unrest
  rw [threads_setThread_self, asleep, resuming]
  exact Nat.zero_lt_one

/-- The rank of an errand. -/
theorem Proceeds.unrest {errand : Errand} (proceeds : Proceeds shard errand database next)
    (sound : Sound hash initial database)
    (forward : (database.threads shard).errand = .popping ∧
        (∃ connection, errand = .connected connection) ∨
      (∃ connection, (database.threads shard).errand = .connected connection) ∧
        errand = .returning) : next.unrest shard < database.unrest shard := by
  have running := (sound.fits shard).awake proceeds.starting proceeds.returning
  obtain ⟨pool, rfl⟩ := proceeds.moved
  unfold Database.unrest
  rw [threads_setThread_self]
  simp only [running]
  rcases forward with ⟨popping, connection, rfl⟩ | ⟨⟨connection, connected⟩, rfl⟩
  · rw [popping]
    exact Nat.lt_succ_self 1
  · rw [connected]
    exact Nat.zero_lt_one

/-- The steps of callers do not put an event off. -/
theorem Sound.nears_request (sound : Sound hash initial database) {workerLabel : WorkerLabel}
    (stepped : workerStep hash workerLabel database.workers = some next.workers)
    (asks : Asks database next) (foreign : ¬label.own shard)
    (pushed : (shard, event) ∈ database.system.pushed)
    (unfinished : .finished shard event ∉ database.log) :
    Nears shard event label database next :=
  sound.nears_of_moved stepped
    (.inr ⟨unrest_congr (asks.errand shard) (asks.state shard), foreign⟩) pushed unfinished

/-- A wait ends: that of the thread, or another one. -/
theorem nears_setWaiter {other : ShardIndex} {condition : ShardWait} {waiter : Waiter ShardWait}
    (asleep : (database.threads other).waiter.state = .asleep condition)
    (resuming : waiter.state = .resuming condition) (own : label.own shard → other = shard) :
    Nears shard event label database
      (database.setThread other { database.threads other with waiter := waiter }) := by
  refine nears_of_quiet ?_ ?_
  · rw [workers_setThread]
    refine moveTo_same ?_
    change (database.threads other).point = _
    unfold WorkerThread.point
    rw [asleep, resuming]
  · by_cases here : other = shard
    · subst here
      exact .inl (unrest_wake asleep resuming)
    · exact .inr ⟨unrest_setThread here, fun owns => here (own owns)⟩

theorem Proceeds.nears {other : ShardIndex} {errand : Errand}
    (proceeds : Proceeds other errand database next) (sound : Sound hash initial database)
    (forward : (database.threads other).errand = .popping ∧
        (∃ connection, errand = .connected connection) ∨
      (∃ connection, (database.threads other).errand = .connected connection) ∧
        errand = .returning) (own : label.own shard → other = shard) :
    Nears shard event label database next := by
  refine nears_of_quiet (proceeds.workers sound) ?_
  by_cases here : other = shard
  · subst here
    exact .inl (proceeds.unrest sound forward)
  · obtain ⟨pool, rfl⟩ := proceeds.moved
    exact .inr ⟨unrest_setThread here, fun owns => here (own owns)⟩

/-- The thread of a shard moves and the worker of the shard too. -/
theorem Sound.nears_worker (sound : Sound hash initial database) {other : ShardIndex}
    {workerLabel : WorkerLabel} (worker : workerLabel.worker = some other)
    (stepped : workerStep hash workerLabel database.workers = some next.workers)
    (elsewhere : other ≠ shard → next.threads shard = database.threads shard)
    (own : label.own shard → other = shard)
    (pushed : (shard, event) ∈ database.system.pushed)
    (unfinished : .finished shard event ∉ database.log) :
    Nears shard event label database next := by
  refine sound.nears_of_moved stepped ?_ pushed unfinished
  by_cases here : other = shard
  · exact .inl (here ▸ worker)
  · have same := elsewhere here
    refine .inr ⟨unrest_congr ?_ ?_, fun owns => here (own owns)⟩
    · rw [same]
    · rw [same]

/-- A thread that gets the lock comes nearer. -/
theorem Sound.nears_lock (sound : Sound hash initial database) {other : ShardIndex}
    (taken : database.lock other = some next) (own : label.own shard → other = shard)
    (pushed : (shard, event) ∈ database.system.pushed)
    (unfinished : .finished shard event ∉ database.log) :
    Nears shard event label database next := by
  by_cases here : other = shard
  · subst here
    have free : (database.system.shards other).working = none := by
      unfold Database.lock at taken
      split at taken
      · contradiction
      · next turns => exact (sound.fits other).free_of_turn turns
      · next turns => exact (sound.fits other).free_of_turn turns
    have waits : event ∈ database.queue other := sound.workers.waits pushed unfinished free
    obtain ⟨workerLabel, worker, stepped⟩ := sound.lock_moves waits taken
    exact sound.nears_worker worker stepped (absurd rfl) own pushed unfinished
  · rcases lock_cases hash taken (sound.fits other) with
      ⟨condition, _, rfl, same | ⟨workerLabel, worker, _, stepped⟩⟩ | ⟨took, _, stepped⟩
    · exact nears_of_quiet same (.inr ⟨unrest_setThread here, fun owns => here (own owns)⟩)
    · exact sound.nears_worker worker stepped
        (fun _ => threads_setThread_of_ne (Ne.symm here)) own pushed unfinished
    · obtain ⟨first, _, same⟩ := take_eq_some took
      refine sound.nears_worker rfl stepped (fun _ => ?_) own pushed unfinished
      rw [same]
      exact Function.update_of_ne (Ne.symm here) _ _

/-- Every step of the threads brings a pushed event nearer to its service, or
leaves it where it is. -/
theorem Sound.nears (sound : Sound hash initial database) (lends : Lends owned database)
    (after : Lends owned next) (taken : Database.step hash label database = some next)
    (pushed : (shard, event) ∈ database.system.pushed)
    (unfinished : .finished shard event ∉ database.log) :
    Nears shard event label database next := by
  cases label with
  | tick elapsed =>
    have stepped : workerStep hash (.tick elapsed) database.workers = _ := workers_request taken
    exact sound.nears_request stepped (request_asks taken rfl (by simp)) id pushed unfinished
  | issue dbRequest =>
    have stepped : workerStep hash (.issue dbRequest) database.workers = _ := workers_request taken
    exact sound.nears_request stepped (request_asks taken rfl (by simp)) id pushed unfinished
  | route index =>
    have stepped : workerStep hash (.route index) database.workers = _ := workers_request taken
    exact sound.nears_request stepped (request_asks taken rfl (by simp)) id pushed unfinished
  | schedule index =>
    obtain ⟨asks, stepped⟩ := schedule_asks hash taken
    exact sound.nears_request stepped asks id pushed unfinished
  | notify other =>
    obtain ⟨waiter, notified, rfl⟩ := setWaiter_eq_some.mp taken
    obtain ⟨condition, left, whole, resuming⟩ := Waiter.notify_eq_some.mp notified
    exact nears_setWaiter (congrArg Waiter.state whole) (congrArg Waiter.state resuming) id
  | notifyNobody other =>
    obtain ⟨waiter, lost, rfl⟩ := setWaiter_eq_some.mp taken
    obtain ⟨_, left, _, rfl⟩ := Waiter.notifyNobody_eq_some.mp lost
    refine nears_of_quiet ((workers_setThread _ _ _).trans (moveTo_same rfl)) (.inr ⟨?_, id⟩)
    refine unrest_congr (apply_setThread WorkerThread.errand ?_ shard)
      (apply_setThread (fun thread => thread.waiter.state) ?_ shard)
    all_goals rfl
  | wakeSpuriously other =>
    obtain ⟨waiter, woken, rfl⟩ := setWaiter_eq_some.mp taken
    obtain ⟨condition, asleep, _, resuming⟩ := Waiter.wake_eq_some.mp woken
    exact nears_setWaiter asleep (congrArg Waiter.state resuming) False.elim
  | timeOut other =>
    obtain ⟨waiter, woken, rfl⟩ := setWaiter_eq_some.mp taken
    obtain ⟨condition, asleep, _, resuming⟩ := Waiter.wake_eq_some.mp woken
    exact nears_setWaiter asleep (congrArg Waiter.state resuming) id
  | lock other => exact sound.nears_lock taken id pushed unfinished
  | popConnection other =>
    obtain ⟨popping, _⟩ := popConnection_eq_some taken
    rcases popConnection_proceeds taken with proceeds | ⟨connection, proceeds⟩
    · obtain ⟨pool, rfl⟩ := proceeds.moved
      refine absurd ?_ (after.unblocked other)
      rw [threads_setThread_self]
    · exact proceeds.nears sound (.inl ⟨popping, connection, rfl⟩) id
  | notifyPool other => exact absurd (notifyPool_blocked taken) (lends.unblocked other)
  | notifyPoolNobody =>
    obtain ⟨left, rfl⟩ := notifyPoolNobody_eq_some taken
    exact nears_of_quiet rfl (.inr ⟨rfl, id⟩)
  | wakePool other => exact absurd (wakePool_eq_some.mp taken).1 (lends.unblocked other)
  | process other =>
    obtain ⟨_, threads, _, _, stepped⟩ := process_eq_some hash taken (sound.fits other)
    exact sound.nears_worker rfl stepped (fun _ => by rw [threads]) id pushed unfinished
  | pushConnection other =>
    obtain ⟨connection, connected, _⟩ := pushConnection_eq_some taken
    exact (pushConnection_proceeds taken).nears sound (.inr ⟨⟨connection, connected⟩, rfl⟩) id

/-- What was pushed stays. -/
theorem Sound.pushed_grows (sound : Sound hash initial database)
    (taken : Database.step hash label database = some next) :
    database.system.pushed <+: next.system.pushed := by
  obtain ⟨labels, following, ran, _, _, rfl⟩ :=
    simulates label database next database.workers taken ⟨sound, rfl⟩
  have grows : ∀ workerLabel (state following : Workers collate),
      workerStep hash workerLabel state = some following →
        state.system.pushed <+: following.system.pushed :=
    fun _ _ _ stepped => (log_grows stepped).1
  refine relates_of_run ?_ ?_ grows ran
  · exact fun _ => List.prefix_refl _
  · exact fun _ _ _ => List.IsPrefix.trans

/-- Under weak fairness of its thread every pushed event is finished. -/
theorem eventually_finished {start : Database collate} (trace : Trace (@step collate hash))
    (begins : trace.state 0 = start) (sound : Sound hash initial start)
    (lends : Lends owned start) (distinct : owned.Nodup) (enough : kShardCount ≤ owned.length)
    (fair : trace.Fair (ThreadLabel.own shard)) (n : Nat)
    (pushed : (shard, event) ∈ (trace.state n).system.pushed) :
    ∃ m, n ≤ m ∧ .finished shard event ∈ (trace.state m).log := by
  have holds : ∀ n, Sound hash initial (trace.state n) ∧ Lends owned (trace.state n) := by
    intro n
    induction n with
    | zero => exact begins ▸ ⟨sound, lends⟩
    | succ n ih =>
      have taken := trace.next n
      exact ⟨ih.1.step taken, ih.2.step distinct enough ih.1 taken⟩
  refine trace.eventually fair
    (fun state => (Sound hash initial state ∧ Lends owned state) ∧
      (shard, event) ∈ state.system.pushed)
    (fun state => .finished shard event ∈ state.log) (remaining shard event)
    (fun state both unfinished => both.1.1.enabled both.1.2 both.2 unfinished) ?_ n
    ⟨holds n, pushed⟩
  rintro label state following taken ⟨⟨kept, leased⟩, member⟩ unfinished
  have after := leased.step distinct enough kept taken
  have stays := (kept.pushed_grows taken).subset member
  rcases kept.nears leased after taken member unfinished with done | nearer
  · exact .inl done
  · exact .inr ⟨⟨⟨kept.step taken, after⟩, stays⟩, nearer⟩

/-! ## Without connections -/

/-- Nothing has been processed. -/
structure Barren (initial : Store collate) (database : Database collate) : Prop where
  idle : database.pool.idleConnections = []
  connections : ∀ shard connection, (database.threads shard).errand ≠ .connected connection
  log : ∀ shard event, .finished shard event ∉ database.log
  store : database.system.store = initial
  results : database.system.results = []

theorem boot_barren {attempts : List (Option Nat)}
    (fails : (DBConnectionPool.connect attempts {}).1 = false) :
    Barren initial (boot initial attempts) where
  idle := by
    unfold boot DBConnectionPool.connect at *
    split at fails
    · rfl
    · contradiction
  connections _ _ := by simp [boot]
  log _ _ := List.not_mem_nil
  store := rfl
  results := rfl

/-- One thread changes, without a connection. -/
theorem Barren.setThread {thread : WorkerThread} (barren : Barren initial database)
    (free : ∀ connection, thread.errand ≠ .connected connection) :
    Barren initial (database.setThread shard thread) where
  idle := barren.idle
  connections other connection := by
    by_cases here : other = shard
    · subst here
      rw [threads_setThread_self]
      exact free connection
    · rw [threads_setThread_of_ne here]
      exact barren.connections other connection
  log := barren.log
  store := barren.store
  results := barren.results

/-- Without a connection nothing is read or written. -/
theorem Barren.keeps (barren : Barren initial database) (pool : next.pool = database.pool)
    (errand : ∀ shard, (next.threads shard).errand = (database.threads shard).errand)
    (log : next.log = database.log) (store : next.system.store = database.system.store)
    (results : next.system.results = database.system.results) : Barren initial next where
  idle := by rw [pool, barren.idle]
  connections shard connection := errand shard ▸ barren.connections shard connection
  log := log ▸ barren.log
  store := store.trans barren.store
  results := results.trans barren.results

theorem Barren.request {request : Label} (barren : Barren initial database)
    (taken : database.request hash request = some next) (isRequest : request.isRequest = true) :
    Barren initial next := by
  obtain ⟨system, stepped, rfl⟩ := Option.map_eq_some_iff.mp taken
  have untouched : system.store = database.system.store ∧
      system.results = database.system.results := by
    cases request with
    | tick elapsed =>
      obtain rfl := Option.some.inj stepped
      exact ⟨rfl, rfl⟩
    | issue dbRequest =>
      obtain rfl := Option.some.inj stepped
      exact ⟨rfl, rfl⟩
    | route index =>
      obtain ⟨_, _, _, _, _, rfl⟩ := System.route_cases stepped
      exact ⟨rfl, rfl⟩
    | schedule index =>
      obtain ⟨_, _, _, _, rfl⟩ := System.schedule_cases stepped
      exact ⟨rfl, rfl⟩
    | takeEvent shard => contradiction
    | process shard => contradiction
  exact barren.keeps rfl (fun _ => rfl) rfl untouched.1 untouched.2

theorem Barren.schedule {index : Nat} (barren : Barren initial database)
    (taken : database.schedule index = some next) : Barren initial next := by
  have asks := (schedule_asks (fun _ => 0) taken).1
  unfold Database.schedule at taken
  split at taken
  · next shard system _ scheduled =>
    obtain rfl := Option.some.inj taken
    obtain ⟨_, _, _, _, rfl⟩ := System.schedule_cases scheduled
    exact barren.keeps rfl asks.errand rfl rfl rfl
  · contradiction

/-- A thread that wakes up goes on to the pool, which is empty. -/
theorem Barren.lock (barren : Barren initial database) (taken : database.lock shard = some next) :
    Barren initial next := by
  unfold Database.lock at taken
  split at taken
  · contradiction
  · obtain rfl := Option.some.inj taken
    exact barren.setThread (barren.connections shard)
  · obtain ⟨event, took, same⟩ := take_eq_some taken
    obtain ⟨_, first, rest, _, system⟩ := System.takeEvent_cases took
    have moved : Barren initial
        (database.setThread shard ⟨(database.threads shard).waiter.leave, .popping⟩) :=
      barren.setThread (by simp)
    rw [same, system]
    refine ⟨moved.idle, moved.connections, fun other finished member => ?_, moved.store,
      moved.results⟩
    rcases List.mem_append.mp member with old | new
    · exact barren.log other finished old
    · exact Mark.noConfusion (List.mem_singleton.mp new)

/-- Without a connection no event is ever processed. -/
theorem Barren.step (barren : Barren initial database)
    (taken : Database.step hash label database = some next) : Barren initial next := by
  have waits : ∀ {shard : ShardIndex} {waiter : Option (Waiter ShardWait)},
      database.setWaiter shard waiter = some next → Barren initial next := by
    intro shard waiter changes
    obtain ⟨changed, _, rfl⟩ := setWaiter_eq_some.mp changes
    exact barren.setThread (barren.connections shard)
  cases label with
  | tick elapsed => exact barren.request taken rfl
  | issue dbRequest => exact barren.request taken rfl
  | route index => exact barren.request taken rfl
  | schedule index => exact barren.schedule taken
  | notify shard => exact waits taken
  | notifyNobody shard => exact waits taken
  | wakeSpuriously shard => exact waits taken
  | timeOut shard => exact waits taken
  | lock shard => exact barren.lock taken
  | popConnection shard =>
    obtain ⟨_, ⟨_, rfl⟩ | ⟨rest, connection, idle, _⟩⟩ := popConnection_eq_some taken
    · exact barren.setThread (by simp)
    · rw [barren.idle] at idle
      simp at idle
  | notifyPool shard =>
    obtain ⟨spent, spends, woken⟩ := Option.bind_eq_some_iff.mp taken
    obtain ⟨left, rfl⟩ := spendNotification_eq_some spends
    obtain ⟨_, rfl⟩ := wakePool_eq_some.mp woken
    exact Barren.setThread ⟨barren.idle, barren.connections, barren.log, barren.store,
      barren.results⟩ (by simp)
  | notifyPoolNobody =>
    obtain ⟨left, rfl⟩ := notifyPoolNobody_eq_some taken
    exact ⟨barren.idle, barren.connections, barren.log, barren.store, barren.results⟩
  | wakePool shard =>
    obtain ⟨_, rfl⟩ := wakePool_eq_some.mp taken
    exact barren.setThread (by simp)
  | process shard =>
    change database.process shard = some next at taken
    unfold Database.process at taken
    split at taken
    · next connection _ _ connected _ => exact absurd connected (barren.connections shard connection)
    · contradiction
  | pushConnection shard =>
    obtain ⟨connection, connected, _⟩ := pushConnection_eq_some taken
    exact absurd connected (barren.connections shard connection)

/-! ## Start -/

/-- A pool that connected owns its connections. -/
theorem boot_lends {attempts : List (Option Nat)} {owned : List Nat}
    (connects : DBConnectionPool.newConnections attempts = some owned) (distinct : owned.Nodup) :
    Lends owned (boot initial attempts) where
  lent := by
    have idle : (boot initial attempts).pool.idleConnections = owned := by
      unfold boot DBConnectionPool.connect
      rw [connects]
      rfl
    rw [idle]
    exact Lent.start distinct
  unblocked _ := by simp [boot]

/-- After `main` has asked for one connection for every shard: if it got them, the
threads process the events as the shard workers do, no connection is used twice
at a time, nobody waits for one, and under weak fairness every event is
processed; if it did not, none ever is. -/
theorem events_served (hash : String → Nat) (store : Store collate)
    {attempts : List (Option Nat)} (asked : attempts.length = kShardCount)
    (distinct : (attempts.filterMap id).Nodup) :
    ((DBConnectionPool.connect attempts {}).1 = true →
      (∀ labels database, run (step hash) labels (boot store attempts) = some database →
        (∃ workerLabels,
          run (workerStep hash) workerLabels (Workers.boot store) = some database.workers ∧
            workerLabels.flatMap WorkerLabel.visible = labels.flatMap visible) ∧
        Serial database.workers ∧ Lends (attempts.filterMap id) database) ∧
      ∀ trace : Trace (@step collate hash), trace.state 0 = boot store attempts →
        (∀ shard, trace.Fair (ThreadLabel.own shard)) →
        ∀ n shard event, (shard, event) ∈ (trace.state n).system.pushed →
          ∃ m, n ≤ m ∧ .finished shard event ∈ (trace.state m).log) ∧
    ((DBConnectionPool.connect attempts {}).1 = false →
      ∀ labels database, run (step hash) labels (boot store attempts) = some database →
        Barren store database) := by
  have sound := boot_sound hash store attempts
  constructor
  · intro succeeds
    obtain ⟨owned, connects⟩ : ∃ owned, DBConnectionPool.newConnections attempts = some owned := by
      unfold DBConnectionPool.connect at succeeds
      split at succeeds
      · contradiction
      · next connections found => exact ⟨connections, found⟩
    have whole := DBConnectionPool.newConnections_eq_some.mp connects
    have same : attempts.filterMap id = owned := by
      rw [whole, List.filterMap_map]
      exact List.filterMap_some
    rw [same] at distinct ⊢
    have enough : kShardCount ≤ owned.length := by
      rw [← asked, whole, List.length_map]
    have lends : Lends owned (boot store attempts) := boot_lends connects distinct
    refine ⟨fun labels database ran => ?_, fun trace begins fair n shard event pushed => ?_⟩
    · obtain ⟨workerLabels, workers, workersRan, shown, final, rfl⟩ := simulates.run ran ⟨sound, rfl⟩
      refine ⟨⟨workerLabels, workersRan, shown⟩, final.workers.serial, ?_⟩
      have keeps : ∀ label state next, step hash label state = some next →
          Sound hash store state ∧ Lends owned state → Sound hash store next ∧ Lends owned next :=
        fun _ _ _ taken both => ⟨both.1.step taken, both.2.step distinct enough both.1 taken⟩
      exact (invariant_of_run keeps ran ⟨sound, lends⟩).2
    · exact eventually_finished trace begins sound lends distinct enough (fair shard) n pushed
  · intro fails labels database ran
    exact invariant_of_run (fun _ _ _ taken barren => barren.step taken) ran (boot_barren fails)

/-- Two threads with an event each; the second one ends its wait by itself. -/
def twoShards : List ThreadLabel :=
  let first := shardForPlayerId 9
  let second := shardForPlayerId 2
  [.lock first, .lock second, .issue (.item (.saveItem 9 2 1 5 true)), .route 0, .schedule 0,
    .issue (.item (.saveItem 2 0 1 5 false)), .route 0, .schedule 0, .wakeSpuriously second,
    .lock second, .notify first, .lock first, .timeOut first, .lock first, .popConnection first,
    .timeOut second, .lock second, .popConnection second, .process second, .notifyNobody second,
    .process first, .pushConnection first, .notifyPoolNobody, .lock first, .pushConnection second,
    .lock second]

/-- Both events are processed, over two connections. -/
theorem events_served_twoShards : ∃ database,
    run (step fun _ => 0) twoShards (boot bobStore ((List.range 8).map some)) = some database ∧
      finishedOn 1 database.log = [⟨.item (.saveItem 9 2 1 5 true), ⟨0, 0⟩, 0⟩] ∧
      finishedOn 2 database.log = [⟨.item (.saveItem 2 0 1 5 false), ⟨0, 1⟩, 1⟩] ∧
      database.pool.idleConnections = [0, 1, 2, 3, 4, 5, 7, 6] ∧
      Lends (List.range 8) database := by
  obtain ⟨database, ran, first, second, idle⟩ : ∃ database,
      run (step fun _ => 0) twoShards (boot bobStore ((List.range 8).map some)) = some database ∧
        finishedOn 1 database.log = [⟨.item (.saveItem 9 2 1 5 true), ⟨0, 0⟩, 0⟩] ∧
        finishedOn 2 database.log = [⟨.item (.saveItem 2 0 1 5 false), ⟨0, 1⟩, 1⟩] ∧
        database.pool.idleConnections = [0, 1, 2, 3, 4, 5, 7, 6] := ⟨_, rfl, rfl, rfl, rfl⟩
  refine ⟨database, ran, first, second, idle, ?_⟩
  exact (((events_served (fun _ => 0) bobStore rfl (by decide)).1 rfl).1 twoShards database ran).2.2

end Database

end Mmorpg.DBThread
