import Mmorpg.Database.LoginOrder
import Mmorpg.Transition.Fairness
import Mathlib.Data.List.Perm.Basic

/-!
# The shard workers

`DBThread::DoDataBase` with its two predicate waits.  Between the points where
the worker of a shard gives up the shard's lock it runs undisturbed, so these
points are its states: waiting for an event, waiting for the time of the first
event, and processing.  Requesting threads push under the same lock and may do
so at any of them.

A wait that finds its predicate false goes on waiting and is no step.  With
one worker for each of the eight shards there is always an idle database
connection, so `ProcessEvent` is never without one.
-/

namespace Mmorpg.DBThread

open Transition

variable {collate : String → String} {hash : String → Nat}

/-- Where the worker of a shard has given up the lock. -/
inductive WorkerPoint
  | waitEvents
  | waitUntil (nextWakeup : Nat)
  | processing
  deriving DecidableEq, Repr

/-- What the workers did, in the order of time. -/
inductive Mark
  | began (shard : ShardIndex) (event : DbEvent)
  | finished (shard : ShardIndex) (event : DbEvent)
  deriving DecidableEq, Repr

/-- The database thread with the program point of each worker, and the log of
what the workers began and finished. -/
structure Workers (collate : String → String) where
  system : System collate
  points : ShardIndex → WorkerPoint
  log : List Mark

namespace Workers

/-- Every worker waits for its first event. -/
def boot (store : Store collate) : Workers collate where
  system := DBThread.boot store
  points := fun _ => .waitEvents
  log := []

/-- The first event of a shard's queue. -/
def top (shard : ShardIndex) (workers : Workers collate) : Option DbEvent :=
  (workers.system.shards shard).events.elements.head?

/-- A worker goes on to another point of its loop. -/
def moveTo (shard : ShardIndex) (point : WorkerPoint) (workers : Workers collate) :
    Workers collate :=
  { workers with points := Function.update workers.points shard point }

theorem moveTo_points (shard : ShardIndex) (point : WorkerPoint) (workers : Workers collate)
    (other : ShardIndex) : (workers.moveTo shard point).points other =
      if other = shard then point else workers.points other :=
  Function.update_apply workers.points shard point other

/-- The head of the inner loop, with the lock held: wait for the time of the
first event, or leave the loop and wait for an event. -/
def loopHead (shard : ShardIndex) (workers : Workers collate) : Workers collate :=
  match workers.top shard with
  | none => workers.moveTo shard .waitEvents
  | some first => workers.moveTo shard (.waitUntil first.stamp.wakeupTime)

/-- The wait for an event ends. -/
def wake (shard : ShardIndex) (workers : Workers collate) : Option (Workers collate) :=
  match workers.points shard with
  | .waitEvents => if workers.top shard = none then none else some (workers.loopHead shard)
  | _ => none

/-- Take the first event off the queue and give up the lock. -/
def take (shard : ShardIndex) (workers : Workers collate) : Option (Workers collate) :=
  match workers.top shard, workers.system.takeEvent shard with
  | some event, some system =>
      some
        { system := system
          points := Function.update workers.points shard .processing
          log := workers.log ++ [.began shard event] }
  | _, _ => none

/-- The wait for the time of the first event ends: its predicate holds, or the
time has come. -/
def wakeUntil (shard : ShardIndex) (workers : Workers collate) : Option (Workers collate) :=
  match workers.points shard with
  | .waitUntil nextWakeup =>
      match workers.top shard with
      | none => some (workers.loopHead shard)
      | some first =>
          if first.stamp.wakeupTime < nextWakeup then
            some (workers.loopHead shard)
          else if workers.system.now < nextWakeup then
            none
          else if first.stamp.wakeupTime > workers.system.now then
            some (workers.loopHead shard)
          else
            workers.take shard
  | _ => none

/-- The next database call of the event in hand. -/
def process (shard : ShardIndex) (workers : Workers collate) : Option (Workers collate) :=
  match workers.points shard, (workers.system.shards shard).working with
  | .processing, some (event, _) =>
      (workers.system.process shard).map fun system =>
        { workers with
          system := system
          log :=
            if (system.shards shard).working = none then workers.log ++ [.finished shard event]
            else workers.log }
  | _, _ => none

/-- After processing the worker locks its shard again. -/
def relock (shard : ShardIndex) (workers : Workers collate) : Option (Workers collate) :=
  match workers.points shard, (workers.system.shards shard).working with
  | .processing, none => some (workers.loopHead shard)
  | _, _ => none

end Workers

/-- One step of the clock, a requesting thread or a worker. -/
inductive WorkerLabel
  | tick (elapsed : Nat)
  | issue (request : DbRequest)
  | route (index : Nat)
  | schedule (index : Nat)
  | wake (shard : ShardIndex)
  | wakeUntil (shard : ShardIndex)
  | process (shard : ShardIndex)
  | relock (shard : ShardIndex)
  deriving DecidableEq, Repr

/-- The worker that takes a step. -/
def WorkerLabel.worker : WorkerLabel → Option ShardIndex
  | wake shard | wakeUntil shard | process shard | relock shard => some shard
  | _ => none

/-- A step of the clock or of a requesting thread. -/
def Label.isRequest : Label → Bool
  | tick _ | issue _ | route _ | schedule _ => true
  | _ => false

/-- A step of the callers, which leaves the workers where they are. -/
def Workers.request (hash : String → Nat) (label : Label) (workers : Workers collate) :
    Option (Workers collate) :=
  (DBThread.step hash label workers.system).map fun system => { workers with system := system }

/-- One step of the callers, of the clock or of a worker. -/
def workerStep (hash : String → Nat) (label : WorkerLabel) (workers : Workers collate) :
    Option (Workers collate) :=
  match label with
  | .tick elapsed => workers.request hash (.tick elapsed)
  | .issue dbRequest => workers.request hash (.issue dbRequest)
  | .route index => workers.request hash (.route index)
  | .schedule index => workers.request hash (.schedule index)
  | .wake shard => workers.wake shard
  | .wakeUntil shard => workers.wakeUntil shard
  | .process shard => workers.process shard
  | .relock shard => workers.relock shard

/-! ## What one step does -/

section Cases

variable {workers next : Workers collate} {shard : ShardIndex}

/-- The head of the loop only moves the worker. -/
theorem Workers.loopHead_eq (shard : ShardIndex) (workers : Workers collate) :
    (workers.top shard = none ∧ workers.loopHead shard = workers.moveTo shard .waitEvents) ∨
      ∃ first, workers.top shard = some first ∧
        workers.loopHead shard = workers.moveTo shard (.waitUntil first.stamp.wakeupTime) := by
  unfold loopHead
  cases first : workers.top shard with
  | none => exact .inl ⟨rfl, rfl⟩
  | some event => exact .inr ⟨event, rfl, rfl⟩

/-- A worker goes back to the head of its loop: it has nothing in hand, and if
it waited for a time, that of the first event is another one. -/
structure Moves (shard : ShardIndex) (workers next : Workers collate) : Prop where
  empty : workers.points shard = .processing → (workers.system.shards shard).working = none
  stale : ∀ nextWakeup, workers.points shard = .waitUntil nextWakeup →
    ∀ first, workers.top shard = some first →
      first.stamp.wakeupTime < nextWakeup ∨ workers.system.now < first.stamp.wakeupTime
  moved : next = workers.loopHead shard

/-- A worker takes an event off its queue. -/
structure Takes (shard : ShardIndex) (event : DbEvent) (workers next : Workers collate) : Prop where
  first : workers.top shard = some event
  taken : workers.system.takeEvent shard = some next.system
  points : next.points = Function.update workers.points shard .processing
  log : next.log = workers.log ++ [.began shard event]

/-- A worker makes a database call for the event in hand. -/
structure Calls (shard : ShardIndex) (event : DbEvent) (workers next : Workers collate) : Prop where
  held : ∃ phase, (workers.system.shards shard).working = some (event, phase)
  called : workers.system.process shard = some next.system
  points : next.points = workers.points
  log : next.log =
    if (next.system.shards shard).working = none then workers.log ++ [.finished shard event]
    else workers.log

theorem Workers.take_eq_some (taken : workers.take shard = some next) :
    ∃ event, Takes shard event workers next := by
  unfold take at taken
  split at taken
  · next event system first ran =>
    obtain rfl := Option.some.inj taken
    exact ⟨event, first, ran, rfl, rfl⟩
  · contradiction

/-- A worker that waited for a deadline waits on or takes the event. -/
theorem Workers.wakeUntil_eq_some (taken : workers.wakeUntil shard = some next) :
    Moves shard workers next ∨ ∃ event, Takes shard event workers next := by
  unfold wakeUntil at taken
  split at taken
  · next nextWakeup point =>
    have waiting : workers.points shard ≠ .processing := by
      rw [point]
      exact WorkerPoint.noConfusion
    have moves : (∀ first, workers.top shard = some first →
        first.stamp.wakeupTime < nextWakeup ∨ workers.system.now < first.stamp.wakeupTime) →
        some (workers.loopHead shard) = some next → Moves shard workers next := by
      intro stale same
      refine ⟨fun processing => absurd processing waiting, ?_, (Option.some.inj same).symm⟩
      intro other atOther
      obtain rfl := WorkerPoint.waitUntil.inj (point.symm.trans atOther)
      exact stale
    split at taken
    · next nothing =>
      refine .inl (moves ?_ taken)
      intro first isFirst
      rw [nothing] at isFirst
      contradiction
    · next top isTop =>
      have only : ∀ first, workers.top shard = some first → first = top :=
        fun first isFirst => Option.some.inj (isFirst.symm.trans isTop)
      split at taken
      · next earlier =>
        exact .inl (moves (fun first isFirst => only first isFirst ▸ .inl earlier) taken)
      · split at taken
        · contradiction
        · split at taken
          · next late =>
            exact .inl (moves (fun first isFirst => only first isFirst ▸ .inr late) taken)
          · exact .inr (Workers.take_eq_some taken)
  · contradiction

theorem Workers.process_eq_some (taken : workers.process shard = some next) :
    workers.points shard = .processing ∧ ∃ event, Calls shard event workers next := by
  unfold process at taken
  split at taken
  · next event phase point held =>
    rcases Option.map_eq_some_iff.mp taken with ⟨system, ran, rfl⟩
    exact ⟨point, event, ⟨phase, held⟩, ran, rfl, rfl⟩
  · contradiction

/-- After an event the worker looks at its queue again. -/
theorem Workers.relock_eq_some (taken : workers.relock shard = some next) :
    Moves shard workers next := by
  unfold relock at taken
  split at taken
  · next point none_ =>
    refine ⟨fun _ => none_, fun nextWakeup waits => ?_, (Option.some.inj taken).symm⟩
    rw [point] at waits
    contradiction
  · contradiction

/-- A worker that is woken looks at its queue. -/
theorem Workers.wake_eq_some (taken : workers.wake shard = some next) :
    Moves shard workers next := by
  unfold wake at taken
  split at taken
  · next point =>
    split at taken
    · contradiction
    · refine ⟨fun processing => ?_, fun nextWakeup waits => ?_, (Option.some.inj taken).symm⟩
      · rw [point] at processing
        contradiction
      · rw [point] at waits
        contradiction
  · contradiction

/-- The clock or a requesting thread moves; the workers stay where they are. -/
structure Requests (hash : String → Nat) (request : Label) (workers next : Workers collate) :
    Prop where
  isRequest : request.isRequest = true
  stepped : DBThread.step hash request workers.system = some next.system
  points : next.points = workers.points
  log : next.log = workers.log

theorem Workers.request_eq_some {request : Label} (isRequest : request.isRequest = true)
    (taken : workers.request hash request = some next) : Requests hash request workers next := by
  rcases Option.map_eq_some_iff.mp taken with ⟨system, ran, rfl⟩
  exact ⟨isRequest, ran, rfl, rfl⟩

/-- Everything a step can be: a step of the clock or a requesting thread, a
move of a worker without an event in hand, a taken event or a database call. -/
theorem workerStep_cases {label : WorkerLabel}
    (taken : workerStep hash label workers = some next) :
    (label.worker = none ∧ ∃ request, Requests hash request workers next) ∨
    ∃ shard, label.worker = some shard ∧
      (Moves shard workers next ∨ (∃ event, Takes shard event workers next) ∨
        workers.points shard = .processing ∧ ∃ event, Calls shard event workers next) := by
  cases label with
  | tick elapsed => exact .inl ⟨rfl, _, Workers.request_eq_some rfl taken⟩
  | issue dbRequest => exact .inl ⟨rfl, _, Workers.request_eq_some rfl taken⟩
  | route index => exact .inl ⟨rfl, _, Workers.request_eq_some rfl taken⟩
  | schedule index => exact .inl ⟨rfl, _, Workers.request_eq_some rfl taken⟩
  | wake shard => exact .inr ⟨shard, rfl, .inl (Workers.wake_eq_some taken)⟩
  | wakeUntil shard =>
      rcases Workers.wakeUntil_eq_some taken with moves | takes
      · exact .inr ⟨shard, rfl, .inl moves⟩
      · exact .inr ⟨shard, rfl, .inr (.inl takes)⟩
  | process shard => exact .inr ⟨shard, rfl, .inr (.inr (Workers.process_eq_some taken))⟩
  | relock shard => exact .inr ⟨shard, rfl, .inl (Workers.relock_eq_some taken)⟩

end Cases

/-! ## The invariant -/

/-- The events the worker of a shard has finished, in order. -/
def finishedOn (shard : ShardIndex) (log : List Mark) : List DbEvent :=
  log.filterMap fun mark =>
    match mark with
    | .finished target event => if target = shard then some event else none
    | .began _ _ => none

/-- The events whose processing the worker of a shard has begun, in order. -/
def begunOn (shard : ShardIndex) (log : List Mark) : List DbEvent :=
  log.filterMap fun mark =>
    match mark with
    | .began target event => if target = shard then some event else none
    | .finished _ _ => none

/-- The events pushed to a shard, in order. -/
def pushedOn (shard : ShardIndex) (pushed : List (ShardIndex × DbEvent)) : List DbEvent :=
  pushed.filterMap fun entry => if entry.1 = shard then some entry.2 else none

namespace System

/-- The event the worker of a shard is processing. -/
def inHand (shard : ShardIndex) (system : System collate) : List DbEvent :=
  ((system.shards shard).working.map Prod.fst).toList

/-- The events that wait on a shard. -/
def waiting (shard : ShardIndex) (system : System collate) : List DbEvent :=
  (system.shards shard).events.elements

end System

theorem mem_pushedOn_iff {shard : ShardIndex} {event : DbEvent}
    {pushed : List (ShardIndex × DbEvent)} :
    event ∈ pushedOn shard pushed ↔ (shard, event) ∈ pushed := by
  simp only [pushedOn, List.mem_filterMap, Option.ite_none_right_eq_some, Option.some.injEq]
  constructor
  · rintro ⟨⟨_, _⟩, member, rfl, rfl⟩
    exact member
  · exact fun member => ⟨_, member, rfl, rfl⟩

theorem mem_finishedOn_iff {shard : ShardIndex} {event : DbEvent} {log : List Mark} :
    event ∈ finishedOn shard log ↔ .finished shard event ∈ log := by
  simp only [finishedOn, List.mem_filterMap]
  constructor
  · rintro ⟨mark, member, same⟩
    cases mark with
    | began target other => contradiction
    | finished target other =>
        simp only [Option.ite_none_right_eq_some, Option.some.injEq] at same
        obtain ⟨rfl, rfl⟩ := same
        exact member
  · exact fun member => ⟨_, member, if_pos rfl⟩

/-- When processing of an event begins, every event of its shard whose request
had returned before this one's began is finished. -/
def InOrder (pushed : List (ShardIndex × DbEvent)) (log : List Mark) : Prop :=
  ∀ before shard second after, log = before ++ .began shard second :: after →
    ∀ first, (shard, first) ∈ pushed → first.stamp.sequence < second.beganAt →
      .finished shard first ∈ before

/-- A mark keeps the order if what it follows has finished. -/
theorem InOrder.snoc {pushed : List (ShardIndex × DbEvent)} {log : List Mark}
    (inOrder : InOrder pushed log) (mark : Mark)
    (last : ∀ shard second, mark = .began shard second → ∀ first, (shard, first) ∈ pushed →
      first.stamp.sequence < second.beganAt → .finished shard first ∈ log) :
    InOrder pushed (log ++ [mark]) := by
  intro before shard second after split first member earlier
  rcases List.eq_nil_or_concat after with rfl | ⟨middle, final, rfl⟩
  · obtain ⟨rfl, same⟩ := List.append_inj' split rfl
    exact last shard second (List.cons.inj same).1 first member earlier
  · have regrouped : log ++ [mark] = (before ++ .began shard second :: middle) ++ [final] := by
      rw [split, List.concat_eq_append, List.append_assoc, List.cons_append]
    obtain ⟨shorter, _⟩ := List.append_inj' regrouped rfl
    exact inOrder before shard second middle shorter first member earlier

/-- The shards of calls and pushed events, and the numbering. -/
structure Sharded (hash : String → Nat) (system : System collate) : Prop where
  calls : ∀ call ∈ system.calls, ∀ shard, call.shard = some shard →
    ∀ fixed, call.request.fixedShard hash = some fixed → shard = fixed
  pushed : ∀ shard event, (shard, event) ∈ system.pushed →
    ∀ fixed, event.request.fixedShard hash = some fixed → shard = fixed
  numbered : (system.pushed.map fun entry => entry.2.stamp.sequence).Nodup

/-- What holds in every state of the workers: the queues are ordered and
sharded, only a processing worker holds an event, a deadline waited for has
passed, and the log tells which events were begun and finished. -/
structure Sound (hash : String → Nat) (initial : Store collate) (workers : Workers collate) :
    Prop where
  ordered : System.Ordered initial workers.system
  sharded : Sharded hash workers.system
  idle : ∀ shard, workers.points shard ≠ .processing →
    (workers.system.shards shard).working = none
  timed : ∀ shard nextWakeup, workers.points shard = .waitUntil nextWakeup →
    nextWakeup ≤ workers.system.now
  started : ∀ shard, begunOn shard workers.log =
    finishedOn shard workers.log ++ workers.system.inHand shard
  accounted : ∀ shard, (finishedOn shard workers.log ++ workers.system.inHand shard ++
    workers.system.waiting shard).Perm (pushedOn shard workers.system.pushed)
  inOrder : InOrder workers.system.pushed workers.log

variable {initial : Store collate} {workers next : Workers collate} {shard : ShardIndex}

/-- Nothing was pushed and every worker waits. -/
theorem boot_sound (hash : String → Nat) (store : Store collate) :
    Sound hash store (Workers.boot store) where
  ordered := System.ordered_boot
  sharded := ⟨by simp [Workers.boot, DBThread.boot], by simp [Workers.boot, DBThread.boot],
    List.nodup_nil⟩
  idle _ _ := rfl
  timed _ _ point := by contradiction
  started _ := rfl
  accounted _ := List.Perm.refl _
  inOrder before shard second after split := by
    simp [Workers.boot] at split

/-! ## Requesting threads -/

/-- An event is pushed to the shard it was routed to. -/
theorem Sharded.schedule {system following : System collate} {index : Nat}
    (sharded : Sharded hash system) (ordered : System.Ordered initial system)
    (taken : system.schedule index = some following) : Sharded hash following := by
  rcases System.schedule_cases taken with ⟨call, target, entry, routed, rfl⟩
  have member := List.mem_of_getElem? entry
  constructor
  · exact fun other otherMember => sharded.calls other (List.mem_of_mem_eraseIdx otherMember)
  · intro shard event pushed
    rcases List.mem_append.mp pushed with old | new
    · exact sharded.pushed shard event old
    · obtain ⟨rfl, rfl⟩ := Prod.mk.inj (List.mem_singleton.mp new)
      exact sharded.calls call member shard routed
  · rw [List.map_append, List.nodup_append]
    refine ⟨sharded.numbered, List.nodup_singleton _, ?_⟩
    intro number old last new same
    rcases List.mem_map.mp old with ⟨⟨shard, event⟩, pushed, rfl⟩
    have below := (ordered.pushedNumber shard event pushed).2
    exact absurd (same.trans (List.mem_singleton.mp new)) below.ne

/-- Writes are routed by player, and new accounts by name. -/
theorem Sharded.route {system following : System collate} {index : Nat}
    (sharded : Sharded hash system) (taken : system.route hash index = some following) :
    Sharded hash following := by
  rcases System.route_cases taken with ⟨call, target, entry, own, cursor, rfl⟩
  have member := List.mem_of_getElem? entry
  refine ⟨?_, sharded.pushed, sharded.numbered⟩
  intro other otherMember shard routed fixed needs
  rcases List.mem_or_eq_of_mem_set otherMember with old | rfl
  · exact sharded.calls other old shard routed fixed needs
  · exact (Option.some.inj routed).symm.trans (own fixed needs)

/-- A call that was not routed is on no shard. -/
theorem Sharded.issue {system : System collate} (sharded : Sharded hash system)
    (request : DbRequest) : Sharded hash (system.issue request) := by
  refine ⟨?_, sharded.pushed, sharded.numbered⟩
  intro call member shard routed
  rcases List.mem_append.mp member with old | new
  · exact sharded.calls call old shard routed
  · rw [List.mem_singleton.mp new] at routed
    contradiction

/-- A step of the clock or a requesting thread pushes at most one event, as the
last one, and touches nothing a worker holds. -/
theorem Requests.cases {request : Label} (requests : Requests hash request workers next)
    (shard : ShardIndex) :
    workers.system.now ≤ next.system.now ∧
      (next.system.shards shard).working = (workers.system.shards shard).working ∧
      ((next.system.pushed = workers.system.pushed ∧
          next.system.waiting shard = workers.system.waiting shard) ∨
        ∃ call target, call ∈ workers.system.calls ∧
          next.system.pushed = workers.system.pushed ++ [(target,
            ⟨call.request, ⟨call.wakeupTime, workers.system.nextSequence⟩, call.beganAt⟩)] ∧
          next.system.waiting shard =
            if shard = target then
              (workers.system.waiting shard).orderedInsert DbEvent.before
                ⟨call.request, ⟨call.wakeupTime, workers.system.nextSequence⟩, call.beganAt⟩
            else workers.system.waiting shard) := by
  have stepped := requests.stepped
  have isRequest := requests.isRequest
  cases request with
  | tick elapsed =>
      have same := Option.some.inj stepped
      rw [← same]
      exact ⟨Nat.le_add_right _ _, rfl, .inl ⟨rfl, rfl⟩⟩
  | issue dbRequest =>
      have same := Option.some.inj stepped
      rw [← same]
      exact ⟨Nat.le_refl _, rfl, .inl ⟨rfl, rfl⟩⟩
  | route index =>
      rcases System.route_cases stepped with ⟨_, _, _, _, _, same⟩
      rw [same]
      exact ⟨Nat.le_refl _, rfl, .inl ⟨rfl, rfl⟩⟩
  | schedule index =>
      rcases System.schedule_cases stepped with ⟨call, target, entry, _, same⟩
      have member := List.mem_of_getElem? entry
      rw [same]
      by_cases here : shard = target
      · subst here
        refine ⟨Nat.le_refl _, by simp, .inr ⟨call, shard, member, rfl, ?_⟩⟩
        simp only [System.waiting, Function.update_self, if_true]
        rfl
      · refine ⟨Nat.le_refl _, by simp [here], .inr ⟨call, target, member, rfl, ?_⟩⟩
        simp [System.waiting, here]
  | takeEvent shard => contradiction
  | process shard => contradiction

theorem System.inHand_congr {first second : System collate}
    (same : (first.shards shard).working = (second.shards shard).working) :
    first.inHand shard = second.inHand shard := by
  rw [inHand, inHand, same]

/-- The steps of callers leave the workers alone. -/
theorem Sound.requests {request : Label} (sound : Sound hash initial workers)
    (requests : Requests hash request workers next) : Sound hash initial next where
  ordered := System.Ordered.step requests.stepped sound.ordered
  sharded := by
    have stepped := requests.stepped
    have isRequest := requests.isRequest
    cases request with
    | tick elapsed =>
        have same := Option.some.inj stepped
        rw [← same]
        exact ⟨sound.sharded.calls, sound.sharded.pushed, sound.sharded.numbered⟩
    | issue dbRequest =>
        have same := Option.some.inj stepped
        rw [← same]
        exact sound.sharded.issue dbRequest
    | route index => exact sound.sharded.route stepped
    | schedule index => exact sound.sharded.schedule sound.ordered stepped
    | takeEvent shard => contradiction
    | process shard => contradiction
  idle shard point := by
    rw [(requests.cases shard).2.1]
    exact sound.idle shard (requests.points ▸ point)
  timed shard nextWakeup point :=
    (sound.timed shard nextWakeup (requests.points ▸ point)).trans (requests.cases shard).1
  started shard := by
    rw [requests.log, System.inHand_congr (requests.cases shard).2.1]
    exact sound.started shard
  accounted shard := by
    have before := sound.accounted shard
    rw [requests.log, System.inHand_congr (requests.cases shard).2.1]
    rcases (requests.cases shard).2.2 with ⟨pushed, waiting⟩ | ⟨call, target, _, pushed, waiting⟩
    · rw [pushed, waiting]
      exact before
    · rw [pushed, waiting, pushedOn, List.filterMap_append]
      by_cases here : shard = target
      · subst here
        simp only [if_true, List.filterMap_cons, List.filterMap_nil]
        have inserted := List.perm_orderedInsert DbEvent.before
          (⟨call.request, ⟨call.wakeupTime, workers.system.nextSequence⟩, call.beganAt⟩ : DbEvent)
          (workers.system.waiting shard)
        refine (inserted.append_left _).trans (List.perm_middle.trans ?_)
        exact (before.cons _).trans (List.perm_append_singleton _ _).symm
      · have elsewhere : ¬target = shard := fun same => here same.symm
        simp only [here, elsewhere, if_false, List.filterMap_cons, List.filterMap_nil,
          List.append_nil]
        exact before
  inOrder := by
    rw [requests.log]
    intro before shard second after split first member earlier
    rcases (requests.cases shard).2.2 with ⟨pushed, _⟩ | ⟨call, target, _, pushed, _⟩
    · exact sound.inOrder before shard second after split first (pushed ▸ member) earlier
    · rw [pushed] at member
      rcases List.mem_append.mp member with old | new
      · exact sound.inOrder before shard second after split first old earlier
      · -- the new event has the highest number
        obtain ⟨rfl, rfl⟩ := Prod.mk.inj (List.mem_singleton.mp new)
        have begun : second ∈ begunOn shard workers.log := by
          rw [split, begunOn, List.filterMap_append, List.mem_append]
          exact .inr (by simp)
        rw [sound.started shard] at begun
        have old := mem_pushedOn_iff.mp
          ((sound.accounted shard).mem_iff.mp (List.mem_append_left _ begun))
        have numbers := sound.ordered.pushedNumber shard second old
        simp only at earlier
        omega

/-! ## Workers -/

theorem Sound.free (sound : Sound hash initial workers) (moves : Moves shard workers next) :
    (workers.system.shards shard).working = none := by
  by_cases point : workers.points shard = .processing
  · exact moves.empty point
  · exact sound.idle shard point

/-- The head of the inner loop keeps the invariant when nothing is in hand. -/
theorem Sound.moves (sound : Sound hash initial workers) (moves : Moves shard workers next) :
    Sound hash initial next := by
  have free := sound.free moves
  have idle : ∀ point other, (workers.moveTo shard point).points other ≠ .processing →
      (workers.system.shards other).working = none := by
    intro point other notProcessing
    by_cases same : other = shard
    · exact same ▸ free
    · rw [Workers.moveTo_points, if_neg same] at notProcessing
      exact sound.idle other notProcessing
  rcases Workers.loopHead_eq shard workers with ⟨_, head⟩ | ⟨first, isFirst, head⟩
  · rw [moves.moved, head]
    refine ⟨sound.ordered, sound.sharded, idle _, ?_, sound.started, sound.accounted,
      sound.inOrder⟩
    intro other nextWakeup point
    by_cases same : other = shard
    · subst same
      simp [Workers.moveTo_points] at point
    · rw [Workers.moveTo_points, if_neg same] at point
      exact sound.timed other nextWakeup point
  · rw [moves.moved, head]
    refine ⟨sound.ordered, sound.sharded, idle _, ?_, sound.started, sound.accounted,
      sound.inOrder⟩
    intro other nextWakeup point
    by_cases same : other = shard
    · subst same
      simp only [Workers.moveTo_points, if_true, WorkerPoint.waitUntil.injEq] at point
      rw [← point]
      exact sound.ordered.pushedTime other first
        (sound.ordered.pendingPushed other first (.inl (List.mem_of_head? isFirst)))
    · rw [Workers.moveTo_points, if_neg same] at point
      exact sound.timed other nextWakeup point

/-- Taking the first event: it moves from the queue into the worker's hand. -/
theorem Takes.cases {event : DbEvent} (takes : Takes shard event workers next) :
    (workers.system.shards shard).working = none ∧
      ∃ rest, (workers.system.shards shard).events.pop = some (event, rest) ∧
        next.system = { workers.system with
          shards := Function.update workers.system.shards shard ⟨rest, some (event, .received)⟩ } := by
  obtain ⟨idle, taken, rest, popped, same⟩ := System.takeEvent_cases takes.taken
  have first := takes.first
  rw [Workers.top, PriorityQueue.elements_of_pop popped, List.head?_cons, Option.some.injEq] at first
  subst first
  exact ⟨idle, rest, popped, same⟩

/-- The event that is taken is the first one of its shard. -/
theorem Sound.takes {event : DbEvent} (sound : Sound hash initial workers)
    (takes : Takes shard event workers next) : Sound hash initial next := by
  obtain ⟨idle, rest, popped, same⟩ := takes.cases
  have elements := PriorityQueue.elements_of_pop popped
  have ordered : System.Ordered initial next.system := sound.ordered.takeEvent takes.taken
  have finished : ∀ other, finishedOn other next.log = finishedOn other workers.log := by
    intro other
    rw [takes.log, finishedOn, List.filterMap_append]
    simp [finishedOn]
  have accounted : ∀ other, (finishedOn other next.log ++ next.system.inHand other ++
      next.system.waiting other).Perm (pushedOn other next.system.pushed) := by
    intro other
    have before := sound.accounted other
    rw [finished, same]
    by_cases here : other = shard
    · subst here
      simpa [System.inHand, System.waiting, idle, elements] using before
    · simpa [System.inHand, System.waiting, here] using before
  refine ⟨ordered, ?_, ?_, ?_, ?_, accounted, ?_⟩
  · rw [same]
    exact ⟨sound.sharded.calls, sound.sharded.pushed, sound.sharded.numbered⟩
  · intro other point
    by_cases here : other = shard
    · subst here
      rw [takes.points, Function.update_self] at point
      exact absurd rfl point
    · rw [takes.points, Function.update_of_ne here] at point
      rw [same]
      simpa [here] using sound.idle other point
  · intro other nextWakeup point
    by_cases here : other = shard
    · subst here
      rw [takes.points, Function.update_self] at point
      contradiction
    · rw [takes.points, Function.update_of_ne here] at point
      rw [same]
      exact sound.timed other nextWakeup point
  · intro other
    rw [finished, takes.log, begunOn, List.filterMap_append, same]
    have before := sound.started other
    by_cases here : other = shard
    · subst here
      simp only [System.inHand, idle, Option.map_none, Option.toList_none, List.append_nil] at before
      rw [← before]
      simp [System.inHand, begunOn]
    · have elsewhere : ¬shard = other := fun equal => here equal.symm
      simp only [System.inHand, Function.update_of_ne here, elsewhere, if_false, List.filterMap_cons,
        List.filterMap_nil, List.append_nil]
      exact before
  · rw [takes.log]
    have pushed : next.system.pushed = workers.system.pushed := by rw [same]
    rw [pushed]
    apply sound.inOrder.snoc
    rintro target second ⟨⟩ first member earlier
    -- the first event is finished: it neither waits behind the taken one nor is it
    have number := (ordered.pushedNumber shard event
      (ordered.pendingPushed shard event (.inr ⟨.received, by rw [same]; simp⟩))).1
    have placed := (accounted shard).mem_iff.mpr (mem_pushedOn_iff.mpr (pushed ▸ member))
    rw [finished] at placed
    rcases List.mem_append.mp placed with done | waits
    · rcases List.mem_append.mp done with done | held
      · exact mem_finishedOn_iff.mp done
      · have isEvent : first = event := by
          rw [same] at held
          simpa [System.inHand] using held
        subst isEvent
        omega
    · have overtaken := ordered.overtaken shard event .received (by rw [same]; simp) first waits
      omega

/-- A database call keeps the event in hand or finishes it. -/
theorem Sound.calls {event : DbEvent} (sound : Sound hash initial workers)
    (calls : Calls shard event workers next) (point : workers.points shard = .processing) :
    Sound hash initial next := by
  have ordered : System.Ordered initial next.system := sound.ordered.process calls.called
  obtain ⟨phase, held⟩ := calls.held
  obtain ⟨_, _, held', now, sequence, callsSame, pushed, working, shards, outcome⟩ :=
    System.process_cases calls.called
  obtain ⟨rfl, rfl⟩ := Prod.mk.inj (Option.some.inj (held.symm.trans held'))
  have waiting : ∀ other, next.system.waiting other = workers.system.waiting other := by
    intro other
    rw [System.waiting, System.waiting, shards]
    by_cases here : other = shard
    · subst here
      simp
    · simp [here]
  have elsewhere : ∀ other, other ≠ shard →
      (next.system.shards other).working = (workers.system.shards other).working := by
    intro other different
    rw [shards, Function.update_of_ne different]
  have own : (next.system.shards shard).working = working := by
    rw [shards, Function.update_self]
  -- what the log and the hand hold together does not change
  have both : ∀ other, finishedOn other next.log ++ next.system.inHand other =
      finishedOn other workers.log ++ workers.system.inHand other := by
    intro other
    rw [calls.log, own]
    by_cases here : other = shard
    · subst here
      rw [System.inHand, own, System.inHand, held]
      rcases outcome with ⟨later, rfl, _⟩ | ⟨rfl, _⟩ | ⟨rfl, _⟩
      · simp
      · simp [finishedOn]
      · simp [finishedOn]
    · have different : ¬shard = other := fun same => here same.symm
      rw [System.inHand_congr (elsewhere other here)]
      split
      · simp [finishedOn, different]
      · rfl
  have begun : ∀ other, begunOn other next.log = begunOn other workers.log := by
    intro other
    rw [calls.log]
    split
    · simp [begunOn]
    · rfl
  refine ⟨ordered, ?_, ?_, ?_, ?_, ?_, ?_⟩
  · exact ⟨callsSame ▸ sound.sharded.calls, pushed ▸ sound.sharded.pushed,
      pushed ▸ sound.sharded.numbered⟩
  · intro other notProcessing
    rw [calls.points] at notProcessing
    have different : other ≠ shard := by
      rintro rfl
      exact notProcessing point
    rw [elsewhere other different]
    exact sound.idle other notProcessing
  · intro other nextWakeup waitsUntil
    rw [now]
    exact sound.timed other nextWakeup (calls.points ▸ waitsUntil)
  · intro other
    rw [begun, both]
    exact sound.started other
  · intro other
    rw [both, waiting, pushed]
    exact sound.accounted other
  · rw [pushed, calls.log]
    split
    · exact sound.inOrder.snoc _ fun _ _ impossible => by contradiction
    · exact sound.inOrder

theorem Sound.step {label : WorkerLabel} (sound : Sound hash initial workers)
    (taken : workerStep hash label workers = some next) : Sound hash initial next := by
  rcases workerStep_cases taken with
    ⟨_, request, requests⟩ | ⟨shard, _, moves | ⟨event, takes⟩ | ⟨point, event, calls⟩⟩
  · exact sound.requests requests
  · exact sound.moves moves
  · exact sound.takes takes
  · exact sound.calls calls point

/-- The workers are sound after any run. -/
theorem sound_of_run {labels : List WorkerLabel}
    (ran : run (workerStep hash) labels (Workers.boot initial) = some workers) :
    Sound hash initial workers :=
  invariant_of_run (fun _ _ _ taken sound => sound.step taken) ran (boot_sound hash initial)

/-! ## Progress -/

/-- Requests in progress that were stamped before a time. -/
def System.earlierCalls (time : Nat) (system : System collate) : Nat :=
  system.calls.countP fun call => call.wakeupTime < time

/-- Waiting events that leave their queue before `event`, itself included. -/
def System.ahead (shard : ShardIndex) (event : DbEvent) (system : System collate) : Nat :=
  (system.waiting shard).countP fun other => DbEvent.before other event

/-- A bound on the steps that a login in this phase still takes. -/
def LoginPhase.weight : LoginPhase → Nat
  | received => 6
  | registered => 5
  | extracted _ => 4
  | unregistered => 4

/-- Worker steps before the next event can be taken. -/
def Workers.weight (shard : ShardIndex) (workers : Workers collate) : Nat :=
  match (workers.system.shards shard).working with
  | some (_, phase) => phase.weight
  | none =>
      match workers.points shard with
      | .waitUntil nextWakeup =>
          if (workers.top shard).map (fun first => first.stamp.wakeupTime) = some nextWakeup then 1
          else 2
      | _ => 3

/-- No step raises the remaining work for an event, and its worker lowers it. -/
def Workers.remaining (shard : ShardIndex) (event : DbEvent) (workers : Workers collate) : Nat :=
  8 * workers.system.ahead shard event +
    16 * workers.system.earlierCalls event.stamp.wakeupTime + workers.weight shard

theorem Workers.weight_le (shard : ShardIndex) (workers : Workers collate) :
    1 ≤ workers.weight shard ∧ workers.weight shard ≤ 6 := by
  unfold weight
  split
  · next phase _ => cases phase <;> simp [LoginPhase.weight]
  · split
    · split <;> simp
    · simp

theorem System.process_isSome {system : System collate} {held : DbEvent × LoginPhase}
    (working : (system.shards shard).working = some held) : system.process shard ≠ none := by
  unfold process
  rw [working]
  simp only
  split
  · split
    · split <;> simp
    all_goals simp
  · simp

/-- A database call finishes the event or brings it closer to its end. -/
theorem System.process_weight {system following : System collate} {event : DbEvent}
    {phase : LoginPhase} (working : (system.shards shard).working = some (event, phase))
    (taken : system.process shard = some following) :
    (following.shards shard).working = none ∨ ∃ later,
      (following.shards shard).working = some (event, later) ∧ later.weight < phase.weight := by
  unfold process at taken
  rw [working] at taken
  simp only at taken
  split at taken
  · next session name password _ =>
    cases phase with
    | received =>
        simp only at taken
        split at taken
        · obtain rfl := Option.some.inj taken
          exact .inr ⟨.registered, by simp [setWorking], by decide⟩
        · obtain rfl := Option.some.inj taken
          exact .inr ⟨.unregistered, by simp [setWorking], by decide⟩
    | registered =>
        obtain rfl := Option.some.inj taken
        exact .inr ⟨.extracted (system.store.players.extractUserInfo name), by simp [setWorking],
          by simp [LoginPhase.weight]⟩
    | extracted userInfo =>
        obtain rfl := Option.some.inj taken
        exact .inl (by simp [setWorking])
    | unregistered =>
        obtain rfl := Option.some.inj taken
        exact .inl (by simp [setWorking])
  · obtain rfl := Option.some.inj taken
    exact .inl (by simp [setWorking])

/-- Where an unfinished event is. -/
theorem Sound.placed (sound : Sound hash initial workers) {event : DbEvent}
    (pushed : (shard, event) ∈ workers.system.pushed)
    (unfinished : .finished shard event ∉ workers.log) :
    event ∈ workers.system.inHand shard ∨ event ∈ workers.system.waiting shard := by
  have placed := (sound.accounted shard).mem_iff.mpr (mem_pushedOn_iff.mpr pushed)
  rw [List.append_assoc, List.mem_append, List.mem_append] at placed
  exact placed.resolve_left fun done => unfinished (mem_finishedOn_iff.mp done)

/-- An event that was pushed and not begun waits on its shard. -/
theorem Sound.waits (sound : Sound hash initial workers) {event : DbEvent}
    (pushed : (shard, event) ∈ workers.system.pushed)
    (unfinished : .finished shard event ∉ workers.log)
    (free : (workers.system.shards shard).working = none) :
    event ∈ workers.system.waiting shard := by
  refine (sound.placed pushed unfinished).resolve_left ?_
  simp [System.inHand, free]

/-- Until an event is finished its worker can move. -/
theorem Sound.enabled (sound : Sound hash initial workers) {event : DbEvent}
    (pushed : (shard, event) ∈ workers.system.pushed)
    (unfinished : .finished shard event ∉ workers.log) :
    ∃ label : WorkerLabel, label.worker = some shard ∧ workerStep hash label workers ≠ none := by
  cases working : (workers.system.shards shard).working with
  | some held =>
      have point : workers.points shard = .processing := by
        by_contra elsewhere
        have free := sound.idle shard elsewhere
        rw [working] at free
        contradiction
      refine ⟨.process shard, rfl, ?_⟩
      simp only [workerStep, Workers.process, point, working, ne_eq, Option.map_eq_none_iff]
      exact System.process_isSome working
  | none =>
      have waits := sound.waits pushed unfinished working
      obtain ⟨first, later, queue⟩ := List.exists_cons_of_ne_nil (List.ne_nil_of_mem waits)
      have top : workers.top shard = some first := by
        rw [Workers.top]
        exact (congrArg List.head? queue : _)
      cases point : workers.points shard with
      | waitEvents =>
          refine ⟨.wake shard, rfl, ?_⟩
          simp [workerStep, Workers.wake, point, top]
      | processing =>
          refine ⟨.relock shard, rfl, ?_⟩
          simp [workerStep, Workers.relock, point, working]
      | waitUntil nextWakeup =>
          have come := Nat.not_lt.mpr (sound.timed shard nextWakeup point)
          have popped : ∃ rest, (workers.system.shards shard).events.pop = some (first, rest) := by
            rcases shape : (workers.system.shards shard).events with ⟨elements, ordered⟩
            have same : elements = first :: later := by
              rw [System.waiting, shape] at queue
              exact queue
            subst same
            exact ⟨_, rfl⟩
          obtain ⟨rest, popped⟩ := popped
          refine ⟨.wakeUntil shard, rfl, ?_⟩
          simp only [workerStep, Workers.wakeUntil, point, top]
          by_cases earlier : first.stamp.wakeupTime < nextWakeup
          · simp [earlier]
          · by_cases late : first.stamp.wakeupTime > workers.system.now
            · simp [earlier, come, late]
            · have now : first.stamp.wakeupTime ≤ workers.system.now := Nat.not_lt.mp late
              simp [earlier, come, late, Workers.take, top, System.takeEvent, working, popped, now]

theorem System.earlierCalls_set {system : System collate} {index : Nat} {old new : DbCall}
    (entry : system.calls[index]? = some old) (same : new.wakeupTime = old.wakeupTime)
    (time cursor : Nat) :
    ({ system with calls := system.calls.set index new, roundRobinCursor := cursor } :
      System collate).earlierCalls time = system.earlierCalls time := by
  obtain ⟨bound, found⟩ := List.getElem?_eq_some_iff.mp entry
  have counted := List.countP_set (p := fun call : DbCall => decide (call.wakeupTime < time))
    (a := new) bound
  have present := List.countP_pos_iff (p := fun call : DbCall => decide (call.wakeupTime < time))
    (l := system.calls)
  rw [earlierCalls, earlierCalls, counted, found, same]
  by_cases early : old.wakeupTime < time
  · have positive := present.mpr ⟨old, List.mem_of_getElem? entry, decide_eq_true early⟩
    simp only [early, decide_true, if_true]
    omega
  · simp [early]

theorem System.earlierCalls_eraseIdx {calls : List DbCall} {index : Nat} {call : DbCall}
    (entry : calls[index]? = some call) (time : Nat) :
    (calls.eraseIdx index).countP (fun other => other.wakeupTime < time) +
        (if call.wakeupTime < time then 1 else 0) =
      calls.countP fun other => other.wakeupTime < time := by
  obtain ⟨bound, found⟩ := List.getElem?_eq_some_iff.mp entry
  have perm := (List.getElem_cons_eraseIdx_perm bound).countP_eq
    fun other : DbCall => decide (other.wakeupTime < time)
  rw [List.countP_cons, found] at perm
  simpa using perm

/-- A new event goes in front of an older one only with an earlier stamp, and
becomes the first of the queue only in front of the older one. -/
theorem before_of_pushed {event new : DbEvent} (number : event.stamp.sequence < new.stamp.sequence)
    (before : DbEvent.before new event) : new.stamp.wakeupTime < event.stamp.wakeupTime := by
  rcases before with earlier | ⟨_, lower⟩
  · exact earlier
  · omega

/-- Pushing behind an event keeps the head of its queue. -/
theorem head?_orderedInsert {queue : List DbEvent} {event new : DbEvent} (member : event ∈ queue)
    (ordered : queue.Pairwise DbEvent.before) (behind : ¬DbEvent.before new event) :
    (queue.orderedInsert DbEvent.before new).head? = queue.head? := by
  cases queue with
  | nil => contradiction
  | cons first rest =>
      rw [List.orderedInsert_cons]
      by_cases front : DbEvent.before new first
      · refine absurd ?_ behind
        rcases List.mem_cons.mp member with rfl | later
        · exact front
        · exact Stamp.le_trans front ((List.pairwise_cons.mp ordered).1 event later)
      · rw [if_neg front]
        rfl

/-- No request raises the remaining work for an event that is not finished. -/
theorem Sound.remaining_requests {request : Label} (sound : Sound hash initial workers)
    (requests : Requests hash request workers next) {event : DbEvent}
    (pushed : (shard, event) ∈ workers.system.pushed)
    (unfinished : .finished shard event ∉ workers.log) :
    next.remaining shard event ≤ workers.remaining shard event := by
  have stepped := requests.stepped
  have isRequest := requests.isRequest
  have weight : next.top shard = workers.top shard →
      (next.system.shards shard).working = (workers.system.shards shard).working →
      next.weight shard = workers.weight shard := by
    intro top working
    rw [Workers.weight, Workers.weight, working, requests.points, top]
  cases request with
  | tick elapsed =>
      have same := Option.some.inj stepped
      have unchanged : next.weight shard = workers.weight shard :=
        weight (by rw [Workers.top, ← same]; rfl) (by rw [← same])
      rw [Workers.remaining, unchanged, ← same]
      exact Nat.le_refl _
  | issue dbRequest =>
      have same := Option.some.inj stepped
      have unchanged : next.weight shard = workers.weight shard :=
        weight (by rw [Workers.top, ← same]; rfl) (by rw [← same]; rfl)
      have old := sound.ordered.pushedTime shard event pushed
      have calls : next.system.earlierCalls event.stamp.wakeupTime =
          workers.system.earlierCalls event.stamp.wakeupTime := by
        rw [← same]
        simp [System.earlierCalls, System.issue, List.countP_append, Nat.not_lt.mpr old]
      have ahead : next.system.ahead shard event = workers.system.ahead shard event := by
        rw [← same]
        rfl
      rw [Workers.remaining, unchanged, calls, ahead]
      exact Nat.le_refl _
  | route index =>
      rcases System.route_cases stepped with ⟨call, target, entry, _, cursor, same⟩
      have unchanged : next.weight shard = workers.weight shard :=
        weight (by rw [Workers.top, same]; rfl) (by rw [same])
      have calls : next.system.earlierCalls event.stamp.wakeupTime =
          workers.system.earlierCalls event.stamp.wakeupTime := by
        rw [same]
        exact @System.earlierCalls_set _ _ index call { call with shard := some target } entry rfl _
          cursor
      have ahead : next.system.ahead shard event = workers.system.ahead shard event := by
        rw [same]
        rfl
      rw [Workers.remaining, unchanged, calls, ahead]
      exact Nat.le_refl _
  | schedule index =>
      rcases System.schedule_cases stepped with ⟨call, target, entry, _, same⟩
      let new : DbEvent :=
        ⟨call.request, ⟨call.wakeupTime, workers.system.nextSequence⟩, call.beganAt⟩
      have number : event.stamp.sequence < new.stamp.sequence :=
        (sound.ordered.pushedNumber shard event pushed).2
      have calls : next.system.earlierCalls event.stamp.wakeupTime +
          (if call.wakeupTime < event.stamp.wakeupTime then 1 else 0) =
            workers.system.earlierCalls event.stamp.wakeupTime := by
        rw [same]
        exact System.earlierCalls_eraseIdx entry _
      have working : (next.system.shards shard).working =
          (workers.system.shards shard).working := (requests.cases shard).2.1
      by_cases here : shard = target
      · subst here
        have queue : next.system.waiting shard =
            (workers.system.waiting shard).orderedInsert DbEvent.before new := by
          rw [same]
          simp only [System.waiting, Function.update_self]
          rfl
        have ahead : next.system.ahead shard event =
            (if DbEvent.before new event then 1 else 0) + workers.system.ahead shard event := by
          rw [System.ahead, queue,
            (List.perm_orderedInsert DbEvent.before new _).countP_eq, List.countP_cons,
            System.ahead, Nat.add_comm]
          simp
        by_cases front : DbEvent.before new event
        · have early : call.wakeupTime < event.stamp.wakeupTime := before_of_pushed number front
          have light := (next.weight_le shard).2
          have heavy := (workers.weight_le shard).1
          rw [if_pos front] at ahead
          rw [if_pos early] at calls
          rw [Workers.remaining, Workers.remaining, ahead, ← calls]
          omega
        · have unchanged : next.weight shard = workers.weight shard := by
            cases held : (workers.system.shards shard).working with
            | some inHand => rw [Workers.weight, Workers.weight, working, held]
            | none =>
                have waits := sound.waits pushed unfinished held
                refine weight ?_ working
                exact (congrArg List.head? queue).trans (head?_orderedInsert waits
                  (workers.system.shards shard).events.ordered front)
          rw [if_neg front, Nat.zero_add] at ahead
          rw [Workers.remaining, Workers.remaining, ahead, unchanged]
          omega
      · have queue : next.system.waiting shard = workers.system.waiting shard := by
          rw [same]
          simp only [System.waiting, Function.update_of_ne here]
        have unchanged : next.weight shard = workers.weight shard :=
          weight (congrArg List.head? queue) working
        have ahead : next.system.ahead shard event = workers.system.ahead shard event := by
          rw [System.ahead, System.ahead, queue]
        rw [Workers.remaining, Workers.remaining, ahead, unchanged]
        omega
  | takeEvent shard => contradiction
  | process shard => contradiction

/-- The head of the loop brings the first event closer. -/
theorem Sound.remaining_moves (sound : Sound hash initial workers)
    (moves : Moves shard workers next) {event : DbEvent}
    (waits : event ∈ workers.system.waiting shard) :
    next.remaining shard event < workers.remaining shard event := by
  have free := sound.free moves
  rcases Workers.loopHead_eq shard workers with ⟨nothing, _⟩ | ⟨first, isFirst, head⟩
  · have queue : workers.system.waiting shard = [] := List.head?_eq_none_iff.mp nothing
    rw [queue] at waits
    contradiction
  · have after : next.weight shard = 1 := by
      rw [moves.moved, head, Workers.weight]
      have top : (workers.moveTo shard (.waitUntil first.stamp.wakeupTime)).top shard = some first :=
        isFirst
      simp only [Workers.moveTo_points, if_true, top, Option.map_some]
      rw [show ((workers.moveTo shard (.waitUntil first.stamp.wakeupTime)).system.shards
        shard).working = none from free]
    have before : 2 ≤ workers.weight shard := by
      rw [Workers.weight, free]
      cases point : workers.points shard with
      | waitEvents => simp
      | processing => simp
      | waitUntil nextWakeup =>
          have late := sound.timed shard nextWakeup point
          have other := moves.stale nextWakeup point first isFirst
          have stale : first.stamp.wakeupTime ≠ nextWakeup := by omega
          simp [isFirst, stale]
    have system : next.system = workers.system := by
      rw [moves.moved, head]
      rfl
    rw [Workers.remaining, Workers.remaining, after, system]
    omega

/-- Taking an event leaves one event less in front of the others. -/
theorem Takes.remaining {taken event : DbEvent} (takes : Takes shard taken workers next)
    (waits : event ∈ workers.system.waiting shard) :
    next.remaining shard event < workers.remaining shard event := by
  obtain ⟨_, rest, popped, same⟩ := takes.cases
  have queue : workers.system.waiting shard = taken :: rest.elements :=
    PriorityQueue.elements_of_pop popped
  have front : DbEvent.before taken event := by
    rw [queue] at waits
    rcases List.mem_cons.mp waits with rfl | later
    · exact .inr ⟨rfl, Nat.le_refl _⟩
    · exact PriorityQueue.before_of_pop popped event later
  have ahead : workers.system.ahead shard event = next.system.ahead shard event + 1 := by
    have left : next.system.waiting shard = rest.elements := by
      rw [same]
      simp [System.waiting]
    rw [System.ahead, System.ahead, queue, left, List.countP_cons_of_pos (by simp [front])]
  have calls : next.system.earlierCalls event.stamp.wakeupTime =
      workers.system.earlierCalls event.stamp.wakeupTime := by
    rw [same]
    rfl
  have light := (next.weight_le shard).2
  have heavy := (workers.weight_le shard).1
  rw [Workers.remaining, Workers.remaining, ahead, calls]
  omega

/-- A database call finishes the event in hand or brings it closer to that. -/
theorem Calls.remaining {held : DbEvent} (calls : Calls shard held workers next)
    (point : workers.points shard = .processing) (event : DbEvent) :
    next.remaining shard event < workers.remaining shard event := by
  obtain ⟨phase, working⟩ := calls.held
  obtain ⟨_, _, _, _, _, sameCalls, _, _, shards, _⟩ := System.process_cases calls.called
  have queue : next.system.waiting shard = workers.system.waiting shard := by
    rw [System.waiting, System.waiting, shards, Function.update_self]
  have lower : next.weight shard < workers.weight shard := by
    rw [Workers.weight, Workers.weight, working, calls.points, point]
    rcases System.process_weight working calls.called with done | ⟨later, still, less⟩
    · rw [done]
      cases phase <;> simp [LoginPhase.weight]
    · rw [still]
      exact less
  rw [Workers.remaining, Workers.remaining, System.ahead, System.ahead, System.earlierCalls,
    System.earlierCalls, queue, sameCalls]
  omega

theorem Workers.remaining_congr {other : ShardIndex} (event : DbEvent)
    (waiting : next.system.waiting other = workers.system.waiting other)
    (calls : next.system.calls = workers.system.calls)
    (working : (next.system.shards other).working = (workers.system.shards other).working)
    (points : next.points other = workers.points other) :
    next.remaining other event = workers.remaining other event := by
  have top : next.top other = workers.top other := congrArg List.head? waiting
  rw [remaining, remaining, System.ahead, System.ahead, System.earlierCalls, System.earlierCalls,
    waiting, calls, weight, weight, working, points, top]

/-- The workers of other shards change nothing for an event. -/
theorem remaining_elsewhere {label : WorkerLabel}
    (taken : workerStep hash label workers = some next) {other : ShardIndex}
    (isOther : label.worker = some other) (different : shard ≠ other) (event : DbEvent) :
    next.remaining shard event = workers.remaining shard event := by
  rcases workerStep_cases taken with
    ⟨none_, _⟩ | ⟨actor, isActor, moves | ⟨first, takes⟩ | ⟨_, held, calls⟩⟩
  · rw [none_] at isOther
    contradiction
  all_goals obtain rfl : actor = other := Option.some.inj (isActor.symm.trans isOther)
  · rcases Workers.loopHead_eq actor workers with ⟨_, head⟩ | ⟨first, _, head⟩
    all_goals
      rw [moves.moved, head]
      exact Workers.remaining_congr event rfl rfl rfl
        ((Workers.moveTo_points _ _ _ _).trans (if_neg different))
  · obtain ⟨_, rest, _, same⟩ := takes.cases
    apply Workers.remaining_congr
    · rw [same]
      simp [System.waiting, different]
    · rw [same]
    · rw [same]
      simp [different]
    · rw [takes.points, Function.update_of_ne different]
  · obtain ⟨_, _, _, _, _, sameCalls, _, _, shards, _⟩ := System.process_cases calls.called
    apply Workers.remaining_congr
    · rw [System.waiting, System.waiting, shards, Function.update_of_ne different]
    · exact sameCalls
    · rw [shards, Function.update_of_ne different]
    · rw [calls.points]

/-- What was pushed or logged stays. -/
theorem log_grows {label : WorkerLabel} (taken : workerStep hash label workers = some next) :
    workers.system.pushed <+: next.system.pushed ∧ workers.log <+: next.log := by
  rcases workerStep_cases taken with
    ⟨_, request, requests⟩ | ⟨actor, _, moves | ⟨first, takes⟩ | ⟨_, held, calls⟩⟩
  · rw [requests.log]
    rcases (requests.cases 0).2.2 with ⟨pushed, _⟩ | ⟨_, _, _, pushed, _⟩
    · exact ⟨pushed ▸ List.prefix_refl _, List.prefix_refl _⟩
    · exact ⟨pushed ▸ List.prefix_append _ _, List.prefix_refl _⟩
  · rcases Workers.loopHead_eq actor workers with ⟨_, head⟩ | ⟨first, _, head⟩
    all_goals
      rw [moves.moved, head]
      exact ⟨List.prefix_refl _, List.prefix_refl _⟩
  · obtain ⟨_, rest, _, same⟩ := takes.cases
    rw [takes.log, same]
    exact ⟨List.prefix_refl _, List.prefix_append _ _⟩
  · obtain ⟨_, _, _, _, _, _, pushed, _⟩ := System.process_cases calls.called
    rw [calls.log, pushed]
    refine ⟨List.prefix_refl _, ?_⟩
    split
    · exact List.prefix_append _ _
    · exact List.prefix_refl _

/-- A step from a state in which an event is unfinished finishes it, or leaves
no more work in front of its end, and less when its worker moves. -/
theorem Sound.remaining_step {label : WorkerLabel} (sound : Sound hash initial workers)
    (taken : workerStep hash label workers = some next) {event : DbEvent}
    (pushed : (shard, event) ∈ workers.system.pushed)
    (unfinished : .finished shard event ∉ workers.log) :
    .finished shard event ∈ next.log ∨
      (next.remaining shard event ≤ workers.remaining shard event ∧
        (label.worker = some shard →
          next.remaining shard event < workers.remaining shard event)) := by
  rcases workerStep_cases taken with
    ⟨none_, request, requests⟩ | ⟨actor, isActor, moves | ⟨first, takes⟩ | ⟨point, held, calls⟩⟩
  · refine .inr ⟨sound.remaining_requests requests pushed unfinished, fun own => ?_⟩
    rw [none_] at own
    contradiction
  all_goals
    by_cases same : shard = actor
    case neg =>
      refine .inr ⟨(remaining_elsewhere taken isActor same event).le, fun own => ?_⟩
      exact absurd (Option.some.inj (own.symm.trans isActor)) same
    subst same
  · have less := sound.remaining_moves moves (sound.waits pushed unfinished (sound.free moves))
    exact .inr ⟨less.le, fun _ => less⟩
  · have less := takes.remaining (sound.waits pushed unfinished takes.cases.1)
    exact .inr ⟨less.le, fun _ => less⟩
  · have less := calls.remaining point event
    exact .inr ⟨less.le, fun _ => less⟩

/-- Under weak fairness of its worker every pushed event is finished. -/
theorem eventually_finished (trace : Trace (@workerStep collate hash))
    (booted : trace.state 0 = Workers.boot initial)
    (fair : trace.Fair fun label => label.worker = some shard) (n : Nat) {event : DbEvent}
    (pushed : (shard, event) ∈ (trace.state n).system.pushed) :
    ∃ m, n ≤ m ∧ .finished shard event ∈ (trace.state m).log := by
  have sound : Sound hash initial (trace.state n) := by
    have ran := trace.run_take n
    rw [booted] at ran
    exact sound_of_run ran
  refine trace.eventually fair
    (fun state => Sound hash initial state ∧ (shard, event) ∈ state.system.pushed)
    (fun state => .finished shard event ∈ state.log) (Workers.remaining shard event)
    (fun state holds unfinished => holds.1.enabled holds.2 unfinished) ?_ n ⟨sound, pushed⟩
  rintro label state following taken ⟨holds, member⟩ unfinished
  have kept := (log_grows taken).1.subset member
  rcases holds.remaining_step taken member unfinished with done | ⟨lower, strictly⟩
  · exact .inl done
  · exact .inr ⟨⟨holds.step taken, kept⟩, lower, strictly⟩

/-! ## Requests of one player -/

/-- Two item requests of one player, or two saves of one name. -/
def DbRequest.SameKey : DbRequest → DbRequest → Prop
  | .item first, .item second => first.playerId = second.playerId
  | .saveUser _ first .., .saveUser _ second .. => first = second
  | _, _ => False

theorem DbRequest.SameKey.fixedShard {first second : DbRequest} (same : first.SameKey second) :
    ∃ shard, first.fixedShard hash = some shard ∧ second.fixedShard hash = some shard := by
  cases first with
  | login session name password => exact same.elim
  | saveUser firstId firstName =>
      cases second with
      | saveUser secondId secondName =>
          obtain rfl : firstName = secondName := same
          exact ⟨_, rfl, rfl⟩
      | login session name password => exact same.elim
      | item request => exact same.elim
  | item firstRequest =>
      cases second with
      | item secondRequest =>
          have players : firstRequest.playerId = secondRequest.playerId := same
          exact ⟨_, rfl, by rw [DbRequest.fixedShard, players]⟩
      | login session name password => exact same.elim
      | saveUser subjectId name => exact same.elim

/-- Each event is pushed, begun and finished at most once, and of two events
with one key the first one is finished before the second one is begun, if its
request had returned when the second one began. -/
structure Serial (workers : Workers collate) : Prop where
  order : ∀ firstShard first secondShard second,
    (firstShard, first) ∈ workers.system.pushed → (secondShard, second) ∈ workers.system.pushed →
    first.request.SameKey second.request → first.stamp.sequence < second.beganAt →
    ∀ before after, workers.log = before ++ .began secondShard second :: after →
      .finished firstShard first ∈ before
  pushedOnce : (workers.system.pushed.map fun entry => entry.2.stamp.sequence).Nodup
  begunOnce : ∀ shard, (begunOn shard workers.log).Nodup
  finishedOnce : ∀ shard, (finishedOn shard workers.log).Nodup
  begunPushed : ∀ shard, begunOn shard workers.log ⊆ pushedOn shard workers.system.pushed
  finishedBegun : ∀ shard, finishedOn shard workers.log <+: begunOn shard workers.log

theorem pushedOn_nodup {pushed : List (ShardIndex × DbEvent)}
    (numbered : (pushed.map fun entry => entry.2.stamp.sequence).Nodup) (shard : ShardIndex) :
    (pushedOn shard pushed).Nodup := by
  have distinct : pushed.Nodup := numbered.of_map _
  apply distinct.filterMap
  rintro ⟨firstShard, first⟩ ⟨secondShard, second⟩ event inFirst inSecond
  simp only [Option.mem_def, Option.ite_none_right_eq_some, Option.some.injEq] at inFirst inSecond
  obtain ⟨rfl, rfl⟩ := inFirst
  obtain ⟨rfl, rfl⟩ := inSecond
  rfl

theorem Sound.serial (sound : Sound hash initial workers) : Serial workers := by
  have begunOnce : ∀ shard, (begunOn shard workers.log).Nodup := by
    intro shard
    have all := (sound.accounted shard).nodup_iff.mpr (pushedOn_nodup sound.sharded.numbered shard)
    rw [sound.started shard]
    exact (List.nodup_append.mp all).1
  have finishedBegun : ∀ shard, finishedOn shard workers.log <+: begunOn shard workers.log := by
    intro shard
    rw [sound.started shard]
    exact List.prefix_append _ _
  refine ⟨?_, sound.sharded.numbered, begunOnce,
    fun shard => (begunOnce shard).sublist (finishedBegun shard).sublist, ?_, finishedBegun⟩
  · intro firstShard first secondShard second firstPushed secondPushed sameKey earlier before after
      split
    obtain ⟨shard, firstFixed, secondFixed⟩ := @DbRequest.SameKey.fixedShard hash _ _ sameKey
    obtain rfl := sound.sharded.pushed firstShard first firstPushed shard firstFixed
    obtain rfl := sound.sharded.pushed secondShard second secondPushed firstShard secondFixed
    exact sound.inOrder before secondShard second after split first firstPushed earlier
  · intro shard event begun
    rw [sound.started shard] at begun
    exact (sound.accounted shard).mem_iff.mp (List.mem_append_left _ begun)

end Mmorpg.DBThread
