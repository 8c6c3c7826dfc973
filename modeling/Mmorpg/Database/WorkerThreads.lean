import Mmorpg.Database.ConnectionPool
import Mmorpg.Database.ShardWorker
import Mmorpg.Transition.Waiter

/-!
# The database worker threads

The eight threads of `DBThread::DoDataBase` with the condition variables of
their shards and the connection pool.  `ScheduleOnShard` notifies after it
unlocked; `ProcessEvent` waits for a connection before its first call and gives
it back after the last one.  `main` ignores what `Connect` returns.
-/

namespace Mmorpg.DBThread

open Transition

variable {collate : String → String} {hash : String → Nat}

/-- The two predicate waits of `DoDataBase`. -/
inductive ShardWait
  | forEvents
  | forWakeup (nextWakeup : Nat)
  deriving DecidableEq, Repr

namespace ShardWait

/-- The predicate of the wait. -/
def holds (queue : List DbEvent) : ShardWait → Bool
  | forEvents => !queue.isEmpty
  | .forWakeup nextWakeup => queue.head?.all fun top => top.stamp.wakeupTime < nextWakeup

/-- `wait_until` has reached its time. -/
def isOver (now : Nat) : ShardWait → Bool
  | forEvents => false
  | .forWakeup nextWakeup => nextWakeup ≤ now

/-- The waits of the thread are the waits of the worker. -/
def point : ShardWait → WorkerPoint
  | forEvents => .waitEvents
  | .forWakeup nextWakeup => .waitUntil nextWakeup

end ShardWait

/-- What a thread does outside the waits of its shard. -/
inductive Errand
  | starting
  | popping
  | blocked
  | connected (connection : Nat)
  | returning
  deriving DecidableEq, Repr

/-- A worker with its condition variable and what it is about to do. -/
structure WorkerThread where
  waiter : Waiter ShardWait := {}
  errand : Errand := .starting

/-- What a thread does once it has the lock of its shard. -/
inductive Turn
  | wait (condition : ShardWait)
  | take

namespace WorkerThread

/-- The connection the thread holds, once the pool has given it one. -/
def connection (thread : WorkerThread) : Option Nat :=
  match thread.errand with
  | .connected connection => some connection
  | _ => none

/-- The thread goes to sleep on a condition. -/
def sleep (condition : ShardWait) (thread : WorkerThread) : WorkerThread :=
  { thread with waiter := thread.waiter.sleep condition }

/-- The heads of the loops. -/
def loopHead : List DbEvent → ShardWait
  | [] => .forEvents
  | top :: _ => .forWakeup top.stamp.wakeupTime

/-- Both waits test their predicates first; after the timed one come the three
tests of the inner loop. -/
def turn (queue : List DbEvent) (now : Nat) (thread : WorkerThread) : Option Turn :=
  match thread.waiter.state with
  | .asleep _ => none
  | .running =>
      match thread.errand with
      | .starting | .returning => some (.wait (loopHead queue))
      | _ => none
  | .resuming condition =>
      if condition.holds queue ∨ condition.isOver now then
        match condition, queue with
        | .forWakeup nextWakeup, top :: _ =>
            if top.stamp.wakeupTime < nextWakeup ∨ now < top.stamp.wakeupTime then
              some (.wait (loopHead queue))
            else some .take
        | _, _ => some (.wait (loopHead queue))
      else some (.wait condition)

/-- Where the thread is for the shard workers. -/
def point (thread : WorkerThread) : WorkerPoint :=
  match thread.waiter.state with
  | .asleep condition | .resuming condition => condition.point
  | .running =>
      match thread.errand with
      | .starting => .waitEvents
      | _ => .processing

end WorkerThread

/-- The tables and queues, the threads and the pool; `log` is the history of
the threads. -/
structure Database (collate : String → String) where
  system : System collate
  threads : ShardIndex → WorkerThread
  pool : DBConnectionPool
  log : List Mark

/-- The steps of the callers, of the clock, of the condition variables and of
the threads. -/
inductive ThreadLabel
  | tick (elapsed : Nat)
  | issue (request : DbRequest)
  | route (index : Nat)
  | schedule (index : Nat)
  | notify (shard : ShardIndex)
  | notifyNobody (shard : ShardIndex)
  | wakeSpuriously (shard : ShardIndex)
  | timeOut (shard : ShardIndex)
  | lock (shard : ShardIndex)
  | popConnection (shard : ShardIndex)
  | notifyPool (shard : ShardIndex)
  | notifyPoolNobody
  | wakePool (shard : ShardIndex)
  | process (shard : ShardIndex)
  | pushConnection (shard : ShardIndex)
  deriving DecidableEq, Repr

/-- The steps that the thread of a shard makes, with the end of its timed wait
and the notifications it is owed. -/
def ThreadLabel.own (shard : ShardIndex) : ThreadLabel → Prop
  | notify other | timeOut other | lock other | popConnection other | notifyPool other
  | process other | pushConnection other => other = shard
  | _ => False

namespace Database

/-- The threads start, and the pool has made its attempts to connect. -/
def boot (store : Store collate) (attempts : List (Option Nat)) : Database collate where
  system := DBThread.boot store
  threads := fun _ => {}
  pool := (DBConnectionPool.connect attempts {}).2
  log := []

/-- The events that wait on a shard. -/
def queue (shard : ShardIndex) (database : Database collate) : List DbEvent :=
  (database.system.shards shard).events.elements

/-- A change of one thread. -/
def setThread (shard : ShardIndex) (thread : WorkerThread) (database : Database collate) :
    Database collate :=
  { database with threads := Function.update database.threads shard thread }

/-- The wait of a thread ends or is notified. -/
def setWaiter (shard : ShardIndex) (waiter : Option (Waiter ShardWait))
    (database : Database collate) : Option (Database collate) :=
  waiter.map fun waiter =>
    database.setThread shard { database.threads shard with waiter := waiter }

/-- A step of the callers, which leaves the threads and the pool alone. -/
def request (hash : String → Nat) (label : Label) (database : Database collate) :
    Option (Database collate) :=
  (DBThread.step hash label database.system).map fun system => { database with system := system }

/-- `ScheduleOnShard` up to the end of its lock; `notify_one` is still to come. -/
def schedule (index : Nat) (database : Database collate) : Option (Database collate) :=
  match database.system.calls[index]?.bind DbCall.shard, database.system.schedule index with
  | some shard, some system =>
      some
        ({ database with system := system }.setThread shard
          { database.threads shard with waiter := (database.threads shard).waiter.signal })
  | _, _ => none

/-- Take the first event off the queue, unlock, and go for a connection. -/
def take (shard : ShardIndex) (database : Database collate) : Option (Database collate) :=
  match (database.queue shard).head?, database.system.takeEvent shard with
  | some event, some system =>
      some
        { database with
          system := system
          threads := Function.update database.threads shard
            ⟨(database.threads shard).waiter.leave, .popping⟩
          log := database.log ++ [.began shard event] }
  | _, _ => none

/-- The thread gets the lock of its shard. -/
def lock (shard : ShardIndex) (database : Database collate) : Option (Database collate) :=
  match (database.threads shard).turn (database.queue shard) database.system.now with
  | none => none
  | some (.wait condition) =>
      some (database.setThread shard ((database.threads shard).sleep condition))
  | some .take => database.take shard

/-- `Pop` with the lock of the pool. -/
def popConnection (shard : ShardIndex) (database : Database collate) :
    Option (Database collate) :=
  match (database.threads shard).errand with
  | .popping =>
      match database.pool.pop with
      | none =>
          some (database.setThread shard { database.threads shard with errand := .blocked })
      | some (connection, pool) =>
          some
            ({ database with pool := pool }.setThread shard
              { database.threads shard with errand := .connected connection })
  | _ => none

/-- A thread that waits in `Pop` wakes up. -/
def wakePool (shard : ShardIndex) (database : Database collate) : Option (Database collate) :=
  if (database.threads shard).errand = .blocked then
    some (database.setThread shard { database.threads shard with errand := .popping })
  else none

/-- One notification of the pool has been delivered. -/
def spendNotification (database : Database collate) : Option (Database collate) :=
  match database.pool.notifications with
  | 0 => none
  | left + 1 => some { database with pool := { database.pool with notifications := left } }

/-- A notification of the pool is lost when no thread is blocked on it. -/
def notifyPoolNobody (database : Database collate) : Option (Database collate) :=
  if ∀ shard, (database.threads shard).errand ≠ .blocked then database.spendNotification else none

/-- The next database call, over the connection. -/
def process (shard : ShardIndex) (database : Database collate) : Option (Database collate) :=
  match (database.threads shard).errand, (database.system.shards shard).working with
  | .connected _, some (event, _) =>
      (database.system.process shard).map fun system =>
        { database with
          system := system
          log :=
            if (system.shards shard).working = none then database.log ++ [.finished shard event]
            else database.log }
  | _, _ => none

/-- The end of `ProcessEvent`: the connection goes back. -/
def pushConnection (shard : ShardIndex) (database : Database collate) :
    Option (Database collate) :=
  match (database.threads shard).errand, (database.system.shards shard).working with
  | .connected connection, none =>
      some
        ({ database with pool := database.pool.push connection }.setThread shard
          { database.threads shard with errand := .returning })
  | _, _ => none

/-- One step of the threads. -/
def step (hash : String → Nat) (label : ThreadLabel) (database : Database collate) :
    Option (Database collate) :=
  match label with
  | .tick elapsed => database.request hash (.tick elapsed)
  | .issue dbRequest => database.request hash (.issue dbRequest)
  | .route index => database.request hash (.route index)
  | .schedule index => database.schedule index
  | .notify shard => database.setWaiter shard (database.threads shard).waiter.notify
  | .notifyNobody shard => database.setWaiter shard (database.threads shard).waiter.notifyNobody
  | .wakeSpuriously shard =>
      database.setWaiter shard ((database.threads shard).waiter.wake fun _ => true)
  | .timeOut shard =>
      database.setWaiter shard
        ((database.threads shard).waiter.wake (ShardWait.isOver database.system.now))
  | .lock shard => database.lock shard
  | .popConnection shard => database.popConnection shard
  | .notifyPool shard => database.spendNotification.bind (wakePool shard)
  | .notifyPoolNobody => database.notifyPoolNobody
  | .wakePool shard => database.wakePool shard
  | .process shard => database.process shard
  | .pushConnection shard => database.pushConnection shard

/-- What the shard workers see. -/
def workers (database : Database collate) : Workers collate :=
  ⟨database.system, fun shard => (database.threads shard).point, database.log⟩

/-- The requests and the database calls of a step. -/
def visible : ThreadLabel → List WorkerLabel
  | .tick elapsed => [.tick elapsed]
  | .issue dbRequest => [.issue dbRequest]
  | .route index => [.route index]
  | .schedule index => [.schedule index]
  | .process shard => [.process shard]
  | _ => []

end Database

/-- The requests and the database calls of a step of the shard workers. -/
def WorkerLabel.visible : WorkerLabel → List WorkerLabel
  | .wake _ | .wakeUntil _ | .relock _ => []
  | label => [label]

end Mmorpg.DBThread
