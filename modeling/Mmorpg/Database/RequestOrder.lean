import Mmorpg.Database.Settled
import Mmorpg.Database.ShardWorker

/-!
# What the shard workers make of the requests

Every request is in progress on some thread or pushed, and every pushed event
waits, is in its worker's hand or is finished.  The tables are those which the
finished events leave, in the order in which they were finished: a login
registers a name that has no row, a save writes the row of its name, and an
item request writes the rows of its player.

A login that finds its name registered makes no change.  It may finish long
after it looked, so the invariant keeps that a registered name stays
registered.
-/

namespace Mmorpg

open DBThread Transition

variable {collate : String → String}

/-! ## Accounts -/

/-- What the row of an account holds besides its identifier. -/
structure AccountData where
  name : String
  password : String
  x : Int
  y : Int
  level : Nat
  exp : Nat
  deriving DecidableEq, Repr

/-- The data of a row. -/
def PlayerRow.data (row : PlayerRow) : AccountData :=
  ⟨row.name, row.password, row.x, row.y, row.level, row.exp⟩

/-- The data of an account, if it is registered. -/
def PlayersTable.dataOf (table : PlayersTable collate) (account : String) : Option AccountData :=
  (table.rowOf account).map PlayerRow.data

/-- Registering a name adds a row for it if there is none. -/
theorem PlayersTable.dataOf_insertNew (name password account : String) (x y : Int)
    (level exp : Nat) (table : PlayersTable collate) :
    (table.insertNew name password x y level exp).dataOf account =
      if collate name = account then
        some ((table.dataOf account).getD ⟨name, password, x, y, level, exp⟩)
      else table.dataOf account := by
  unfold insertNew
  by_cases here : collate name = account
  · subst here
    rw [if_pos rfl]
    split
    · next missing =>
      have none_ : table.rowOf (collate name) = none := missing
      simp only [rowOf] at none_
      simp [dataOf, rowOf, List.find?_append, none_, PlayerRow.data]
    · next found =>
      obtain ⟨row, stored⟩ := Option.ne_none_iff_exists'.mp found
      have same : table.rowOf (collate name) = some row := stored
      rw [dataOf, same]
      rfl
  · rw [if_neg here]
    split
    · simp [dataOf, rowOf, List.find?_append, here]
    · rfl

/-- A save writes the row of its name and no other. -/
theorem PlayersTable.dataOf_savePlayerInfo (name account : String) (x y : Int) (level exp : Nat)
    (table : PlayersTable collate) :
    (table.savePlayerInfo name x y level exp).dataOf account =
      if collate name = account then
        (table.dataOf account).map fun old =>
          { old with
            x := if 0 ≤ x ∧ x ≤ 1999 then x else old.x
            y := if 0 ≤ y ∧ y ≤ 1999 then y else old.y
            level := level
            exp := exp }
      else table.dataOf account := by
  rw [dataOf, rowOf_savePlayerInfo]
  by_cases here : collate name = account
  · rw [if_pos here.symm, if_pos here, dataOf, Option.map_map, Option.map_map]
    rfl
  · rw [if_neg fun same => here same.symm, if_neg here, dataOf]

/-! ## Requests -/

namespace DBThread

/-- What a request makes of the inventory rows of a player. -/
def DbRequest.rowsFor (playerId : Int) (request : DbRequest)
    (rows : Int16 → Option InventoryRow) : Int16 → Option InventoryRow :=
  if request.player = some playerId then request.rowsEffect rows else rows

/-- What a request makes of the data of an account.  A coordinate outside the
table's range is not stored. -/
def DbRequest.dataFor (collate : String → String) (account : String) (request : DbRequest)
    (data : Option AccountData) : Option AccountData :=
  match request with
  | login _ name password =>
      if collate name = account then some (data.getD ⟨name, password, 0, 0, 1, 0⟩) else data
  | saveUser _ name x y level exp =>
      if collate name = account then
        data.map fun old =>
          { old with
            x := if 0 ≤ x ∧ x ≤ 1999 then x else old.x
            y := if 0 ≤ y ∧ y ≤ 1999 then y else old.y
            level := level
            exp := exp }
      else data
  | item _ => data

/-- An item request writes the rows of its player; no other request writes
inventory rows. -/
theorem DbRequest.rowsOf_apply (playerId : Int) (request : DbRequest) (store : Store collate) :
    (request.apply store).inventory.rowsOf playerId =
      request.rowsFor playerId (store.inventory.rowsOf playerId) := by
  cases request with
  | login session name password => rfl
  | saveUser id name x y level exp => rfl
  | item request =>
      by_cases mine : (item request).player = some playerId
      · rw [rowsFor, if_pos mine]
        exact keyed_rowsOf.own (item request) store playerId mine
      · rw [rowsFor, if_neg mine]
        exact keyed_rowsOf.other (item request) store playerId mine

/-- A login registers its name, a save writes the row of its name. -/
theorem DbRequest.dataOf_apply (account : String) (request : DbRequest) (store : Store collate) :
    (request.apply store).players.dataOf account =
      request.dataFor collate account (store.players.dataOf account) := by
  cases request with
  | login session name password => exact PlayersTable.dataOf_insertNew ..
  | saveUser id name x y level exp => exact PlayersTable.dataOf_savePlayerInfo ..
  | item request => rfl

/-! ## Logins in progress -/

/-- The login has found its name in the table. -/
def LoginPhase.found : LoginPhase → Bool
  | registered | extracted _ => true
  | received | unregistered => false

/-- A name that a login has found is registered. -/
def Registered (held : DbEvent × LoginPhase) (store : Store collate) : Prop :=
  ∀ session name password, held.1.request = .login session name password →
    held.2.found = true → (store.players.dataOf (collate name)).isSome

/-- No request removes an account. -/
theorem DbRequest.dataFor_isSome {account : String} {data : Option AccountData}
    (registered : data.isSome) (request : DbRequest) :
    (request.dataFor collate account data).isSome := by
  cases request with
  | login session name password =>
      simp only [dataFor]
      split
      · rfl
      · exact registered
  | saveUser id name x y level exp =>
      simp only [dataFor]
      split
      · rw [Option.isSome_map]
        exact registered
      · exact registered
  | item request => exact registered

/-- A write by another event keeps an account. -/
theorem Registered.apply {held : DbEvent × LoginPhase} {store : Store collate}
    (registered : Registered held store) (request : DbRequest) :
    Registered held (request.apply store) := by
  intro session name password login found
  rw [DbRequest.dataOf_apply]
  exact DbRequest.dataFor_isSome (registered session name password login found) request

/-- A login whose name is registered changes nothing. -/
theorem DbRequest.login_apply_of_registered {session : Nat} {name password : String}
    {store : Store collate} (registered : (store.players.dataOf (collate name)).isSome) :
    (login session name password).apply store = store := by
  rw [PlayersTable.dataOf, Option.isSome_map] at registered
  have found : store.players.find name ≠ none := Option.isSome_iff_ne_none.mp registered
  simp only [apply, PlayersTable.insertNew, dif_neg found]

/-- A database call that keeps the event in hand leaves the tables alone; the
one that finishes it leaves the change of the event. -/
theorem System.process_store {system next : System collate} {shard : ShardIndex}
    {held : DbEvent × LoginPhase} (working : (system.shards shard).working = some held)
    (registered : Registered held system.store) (taken : system.process shard = some next) :
    (∃ later, (next.shards shard).working = some (held.1, later) ∧
        next.store = system.store ∧ Registered (held.1, later) next.store) ∨
      (next.shards shard).working = none ∧ next.store = held.1.apply system.store := by
  obtain ⟨event, phase⟩ := held
  unfold process at taken
  rw [working] at taken
  simp only at taken
  split at taken
  · next session name password login =>
    -- the phases of a login: looking, reading twice, adding
    split at taken
    · split at taken
      · next isRegistered =>
        obtain rfl := Option.some.inj taken
        refine .inl ⟨.registered, by simp [setWorking], rfl, ?_⟩
        intro session name password sameLogin _
        obtain ⟨-, rfl, -⟩ := DbRequest.login.inj (login.symm.trans sameLogin)
        rw [PlayersTable.dataOf, Option.isSome_map]
        exact isRegistered
      · obtain rfl := Option.some.inj taken
        exact .inl ⟨.unregistered, by simp [setWorking], rfl,
          fun _ _ _ _ found => absurd found Bool.false_ne_true⟩
    · obtain rfl := Option.some.inj taken
      exact .inl ⟨.extracted (system.store.players.extractUserInfo name), by simp [setWorking],
        rfl, fun _ _ _ sameLogin _ => registered _ _ _ sameLogin rfl⟩
    · obtain rfl := Option.some.inj taken
      refine .inr ⟨by simp [setWorking], ?_⟩
      rw [DbEvent.apply, login,
        DbRequest.login_apply_of_registered (registered session name password login rfl)]
      rfl
    · obtain rfl := Option.some.inj taken
      exact .inr ⟨by simp [setWorking], rfl⟩
  · obtain rfl := Option.some.inj taken
    exact .inr ⟨by simp [setWorking], rfl⟩

/-! ## The tables -/

/-- The event a mark says is finished. -/
def Mark.finishedEvent : Mark → Option DbEvent
  | finished _ event => some event
  | began _ _ => none

/-- All finished events, in the order in which they were finished. -/
def finishedEvents (log : List Mark) : List DbEvent :=
  log.filterMap Mark.finishedEvent

/-- The tables are the initial ones with the finished events applied. -/
structure UpToDate (initial : Store collate) (workers : Workers collate) : Prop where
  store : workers.system.store = replay DbEvent.apply (finishedEvents workers.log) initial
  registered : ∀ shard held, (workers.system.shards shard).working = some held →
    Registered held workers.system.store

variable {hash : String → Nat} {initial : Store collate} {workers next : Workers collate}
  {shard : ShardIndex}

/-- At the start the tables are the initial ones. -/
theorem boot_upToDate (store : Store collate) : UpToDate store (Workers.boot store) where
  store := rfl
  registered _ _ working := by contradiction

/-- Neither the clock nor a requesting thread touches the tables. -/
theorem Requests.store {request : Label} (requests : Requests hash request workers next) :
    next.system.store = workers.system.store := by
  have stepped := requests.stepped
  have isRequest := requests.isRequest
  cases request with
  | tick elapsed => exact (congrArg System.store (Option.some.inj stepped) :).symm
  | issue dbRequest => exact (congrArg System.store (Option.some.inj stepped) :).symm
  | route index =>
      obtain ⟨_, _, _, _, _, same⟩ := System.route_cases stepped
      rw [same]
  | schedule index =>
      obtain ⟨_, _, _, _, same⟩ := System.schedule_cases stepped
      rw [same]
  | takeEvent shard => contradiction
  | process shard => contradiction

theorem UpToDate.requests {request : Label} (upToDate : UpToDate initial workers)
    (requests : Requests hash request workers next) : UpToDate initial next where
  store := by
    rw [requests.store, requests.log]
    exact upToDate.store
  registered shard held working := by
    rw [requests.store]
    exact upToDate.registered shard held ((requests.cases shard).2.1 ▸ working)

theorem UpToDate.moves (upToDate : UpToDate initial workers) (moves : Moves shard workers next) :
    UpToDate initial next := by
  rw [moves.moved]
  rcases Workers.loopHead_eq shard workers with ⟨_, head⟩ | ⟨_, _, head⟩
  · rw [head]
    exact ⟨upToDate.store, upToDate.registered⟩
  · rw [head]
    exact ⟨upToDate.store, upToDate.registered⟩

theorem UpToDate.takes {event : DbEvent} (upToDate : UpToDate initial workers)
    (takes : Takes shard event workers next) : UpToDate initial next := by
  obtain ⟨_, rest, _, same⟩ := takes.cases
  constructor
  · rw [takes.log, same, finishedEvents, List.filterMap_append, List.filterMap_cons_none rfl,
      List.filterMap_nil, List.append_nil]
    exact upToDate.store
  · intro other held working
    rw [same] at working ⊢
    by_cases here : other = shard
    · subst here
      obtain rfl : (event, LoginPhase.received) = held := by simpa using working
      exact fun _ _ _ _ found => absurd found Bool.false_ne_true
    · exact upToDate.registered other held (by simpa [here] using working)

/-- The call that finishes an event makes its change. -/
theorem UpToDate.calls {event : DbEvent} (upToDate : UpToDate initial workers)
    (calls : Calls shard event workers next) : UpToDate initial next := by
  obtain ⟨phase, held⟩ := calls.held
  obtain ⟨_, _, _, _, _, _, _, working, shards, _⟩ := System.process_cases calls.called
  have elsewhere : ∀ other, other ≠ shard →
      (next.system.shards other).working = (workers.system.shards other).working := by
    intro other different
    rw [shards, Function.update_of_ne different]
  have mine := upToDate.registered shard _ held
  rcases System.process_store held mine calls.called with
    ⟨later, kept, store, registered⟩ | ⟨done, store⟩
  · constructor
    · rw [calls.log, if_neg (by rw [kept]; exact Option.some_ne_none _), store]
      exact upToDate.store
    · intro other inHand working
      by_cases here : other = shard
      · subst here
        obtain rfl := Option.some.inj (kept.symm.trans working)
        exact registered
      · rw [store]
        exact upToDate.registered other inHand (elsewhere other here ▸ working)
  · constructor
    · rw [calls.log, if_pos done, finishedEvents, List.filterMap_append, replay_append, store,
        upToDate.store]
      rfl
    · intro other inHand working
      by_cases here : other = shard
      · subst here
        rw [done] at working
        contradiction
      · rw [store]
        exact (upToDate.registered other inHand (elsewhere other here ▸ working)).apply _

/-- Every step keeps the tables equal to the replay of the finished events. -/
theorem UpToDate.step {label : WorkerLabel} (upToDate : UpToDate initial workers)
    (taken : workerStep hash label workers = some next) : UpToDate initial next := by
  rcases workerStep_cases taken with
    ⟨_, request, requests⟩ | ⟨shard, _, moves | ⟨event, takes⟩ | ⟨_, event, calls⟩⟩
  · exact upToDate.requests requests
  · exact upToDate.moves moves
  · exact upToDate.takes takes
  · exact upToDate.calls calls

/-- After any run the tables are the replay of the finished events. -/
theorem upToDate_of_run {labels : List WorkerLabel}
    (ran : run (workerStep hash) labels (Workers.boot initial) = some workers) :
    UpToDate initial workers :=
  invariant_of_run (fun _ _ _ taken upToDate => upToDate.step taken) ran (boot_upToDate initial)

/-! ## Where the requests are -/

/-- The request a step makes. -/
def WorkerLabel.issued : WorkerLabel → Option DbRequest
  | issue request => some request
  | _ => none

/-- The requests in progress, then those that were pushed. -/
def System.requests (system : System collate) : List DbRequest :=
  system.calls.map DbCall.request ++ system.pushed.map fun entry => entry.2.request

theorem System.requests_route {system following : System collate} {index : Nat}
    (taken : system.route hash index = some following) : following.requests = system.requests := by
  obtain ⟨call, target, entry, _, cursor, rfl⟩ := System.route_cases taken
  obtain ⟨bound, found⟩ := List.getElem?_eq_some_iff.mp entry
  have inside : index < (system.calls.map DbCall.request).length := by
    rw [List.length_map]
    exact bound
  have own : (system.calls.map DbCall.request)[index] = call.request := by
    rw [List.getElem_map, found]
  simp only [requests, List.map_set]
  rw [← own, List.set_getElem_self]

/-- Scheduling moves a request from the calls to the pushed events. -/
theorem System.requests_schedule {system following : System collate} {index : Nat}
    (taken : system.schedule index = some following) :
    following.requests.Perm system.requests := by
  obtain ⟨call, target, entry, _, rfl⟩ := System.schedule_cases taken
  obtain ⟨bound, found⟩ := List.getElem?_eq_some_iff.mp entry
  have calls := ((List.getElem_cons_eraseIdx_perm bound).map DbCall.request).symm
  rw [List.map_cons, found] at calls
  simp only [requests, List.map_append, List.map_cons, List.map_nil]
  rw [← List.append_assoc]
  exact (List.perm_append_singleton _ _).trans (calls.symm.append_right _)

/-- A worker makes no request. -/
theorem Moves.requests (moves : Moves shard workers next) :
    next.system.requests = workers.system.requests := by
  rw [moves.moved]
  rcases Workers.loopHead_eq shard workers with ⟨_, head⟩ | ⟨_, _, head⟩
  · rw [head]
    rfl
  · rw [head]
    rfl

theorem Takes.requests {event : DbEvent} (takes : Takes shard event workers next) :
    next.system.requests = workers.system.requests := by
  obtain ⟨_, _, _, same⟩ := takes.cases
  rw [same]
  rfl

theorem Calls.requests {event : DbEvent} (calls : Calls shard event workers next) :
    next.system.requests = workers.system.requests := by
  obtain ⟨_, _, _, _, _, callsSame, pushed, _⟩ := System.process_cases calls.called
  rw [System.requests, System.requests, callsSame, pushed]

/-- A request is added when it is made, and stays. -/
theorem requests_step {label : WorkerLabel} (taken : workerStep hash label workers = some next) :
    next.system.requests.Perm (workers.system.requests ++ label.issued.toList) := by
  have quiet : label.issued = none → next.system.requests.Perm workers.system.requests →
      next.system.requests.Perm (workers.system.requests ++ label.issued.toList) := by
    intro none_ same
    rw [none_, Option.toList_none, List.append_nil]
    exact same
  cases label with
  | tick elapsed =>
      have same := Option.some.inj (Workers.request_eq_some rfl taken).stepped
      rw [← same] at quiet ⊢
      exact quiet rfl (.refl _)
  | issue request =>
      have same := Option.some.inj (Workers.request_eq_some rfl taken).stepped
      rw [← same]
      simp only [System.requests, System.issue, List.map_append, List.map_cons, List.map_nil,
        List.append_assoc]
      exact List.perm_append_comm.append_left _
  | route index =>
      exact quiet rfl (.of_eq (System.requests_route (Workers.request_eq_some rfl taken).stepped))
  | schedule index =>
      exact quiet rfl (System.requests_schedule (Workers.request_eq_some rfl taken).stepped)
  | wake shard => exact quiet rfl (.of_eq (Workers.wake_eq_some taken).requests)
  | wakeUntil shard =>
      rcases Workers.wakeUntil_eq_some taken with moves | ⟨event, takes⟩
      · exact quiet rfl (.of_eq moves.requests)
      · exact quiet rfl (.of_eq takes.requests)
  | process shard =>
      obtain ⟨_, event, calls⟩ := Workers.process_eq_some taken
      exact quiet rfl (.of_eq calls.requests)
  | relock shard => exact quiet rfl (.of_eq (Workers.relock_eq_some taken).requests)

/-- The requests of a run are those that were issued, in some order. -/
theorem requests_of_run {labels : List WorkerLabel}
    (ran : run (workerStep hash) labels workers = some next) :
    next.system.requests.Perm (workers.system.requests ++ labels.filterMap WorkerLabel.issued) := by
  induction labels generalizing workers with
  | nil =>
      obtain rfl := Option.some.inj ran
      exact .of_eq (List.append_nil _).symm
  | cons label rest ih =>
      obtain ⟨middle, taken, later⟩ := run_cons_eq_some.mp ran
      refine (ih later).trans (((requests_step taken).append_right _).trans ?_)
      rw [List.append_assoc]
      cases issued : label.issued with
      | none => rw [List.filterMap_cons_none issued]; exact .refl _
      | some request => rw [List.filterMap_cons_some issued]; exact .refl _

/-- What a run made of its requests.  Each is in progress or pushed; each
pushed event is finished, in hand or waiting on its shard; and the rows of a
player and the data of an account are what the finished events leave. -/
structure Processed (labels : List WorkerLabel) (initial : Store collate)
    (workers : Workers collate) : Prop where
  requested : (labels.filterMap WorkerLabel.issued).Perm workers.system.requests
  accounted : ∀ shard, (finishedOn shard workers.log ++ workers.system.inHand shard ++
    workers.system.waiting shard).Perm (pushedOn shard workers.system.pushed)
  rows : ∀ playerId, workers.system.store.inventory.rowsOf playerId =
    replay (fun event => event.request.rowsFor playerId) (finishedEvents workers.log)
      (initial.inventory.rowsOf playerId)
  accounts : ∀ account, workers.system.store.players.dataOf account =
    replay (fun event => event.request.dataFor collate account) (finishedEvents workers.log)
      (initial.players.dataOf account)

/-- Everything issued is accounted for, and the tables hold what was finished. -/
theorem processed_of_run {labels : List WorkerLabel}
    (ran : run (workerStep hash) labels (Workers.boot initial) = some workers) :
    Processed labels initial workers where
  requested := (requests_of_run ran).symm
  accounted := (sound_of_run ran).accounted
  rows playerId := by
    rw [(upToDate_of_run ran).store]
    exact replay_hom (fun store : Store collate => store.inventory.rowsOf playerId)
      (fun event store => event.request.rowsOf_apply playerId store) _ initial
  accounts account := by
    rw [(upToDate_of_run ran).store]
    exact replay_hom (fun store : Store collate => store.players.dataOf account)
      (fun event store => event.request.dataOf_apply account store) _ initial

/-- The writes of one player, and the saves of one name, are processed in the
order of their requests; the tables are what the processed requests make of
them; and under fair workers every request is processed exactly once. -/
theorem writes_in_request_order (hash : String → Nat) (store : Store collate) :
    (∀ labels workers, run (workerStep hash) labels (Workers.boot store) = some workers →
      Serial workers ∧ Processed labels store workers) ∧
    ∀ trace : Trace (@workerStep collate hash), trace.state 0 = Workers.boot store →
      (∀ shard, trace.Fair fun label => label.worker = some shard) →
      ∀ n shard event, (shard, event) ∈ (trace.state n).system.pushed →
        ∃ m, n ≤ m ∧ .finished shard event ∈ (trace.state m).log :=
  ⟨fun _ _ ran => ⟨(sound_of_run ran).serial, processed_of_run ran⟩,
    fun trace booted fair n shard _ pushed => eventually_finished trace booted (fair shard) n pushed⟩

/-- Two writes of player nine, with a save between them that shares the shard
and is stamped before both but pushed after them; then the first login of a
name and a save of another one. -/
def sharedShard : List WorkerLabel :=
  let shard := shardForPlayerId 9
  let other := shardForPlayerId 0
  [.issue (.item (.saveItem 1 0 1 5 false)), .tick 3, .issue (.item (.saveItem 9 2 1 5 true)),
    .route 1, .schedule 1, .wake shard, .issue (.item (.saveItem 9 2 1 4 false)), .route 1,
    .schedule 1, .route 0, .schedule 0, .wakeUntil shard, .wakeUntil shard, .process shard,
    .relock shard, .wakeUntil shard, .process shard, .relock shard, .wakeUntil shard,
    .process shard, .issue (.login 7 "eve" ""), .route 0, .schedule 0,
    .issue (.saveUser ⟨.eUser, 7⟩ "bob" 30 4000 3 8), .route 0, .schedule 0, .wake other,
    .wakeUntil other, .process other, .process other, .relock other, .wakeUntil other,
    .process other]

/-- The late push makes the wait start again and goes first; the two writes of
player nine keep their order and the last one stays.  The row of bob keeps the
coordinate that a save cannot take. -/
theorem writes_in_request_order_sharedShard : ∃ workers,
    run (workerStep fun _ => 0) sharedShard (Workers.boot bobStore) = some workers ∧
      finishedOn 1 workers.log =
        [⟨.item (.saveItem 1 0 1 5 false), ⟨0, 2⟩, 0⟩, ⟨.item (.saveItem 9 2 1 5 true), ⟨3, 0⟩, 0⟩,
          ⟨.item (.saveItem 9 2 1 4 false), ⟨3, 1⟩, 1⟩] ∧
      workers.system.store.inventory.rowsOf 1 0 = some ⟨1, 0, 1, 5, false⟩ ∧
      workers.system.store.inventory.rowsOf 9 2 = some ⟨9, 2, 1, 4, false⟩ ∧
      workers.system.store.players.dataOf "eve" = some ⟨"eve", "", 0, 0, 1, 0⟩ ∧
      workers.system.store.players.dataOf "bob" = some ⟨"bob", "", 30, 10, 3, 8⟩ ∧
      Serial workers ∧ Processed sharedShard bobStore workers := by
  have completes : (run (workerStep fun _ => 0) sharedShard (Workers.boot bobStore)).isSome := by
    rfl
  rcases Option.isSome_iff_exists.mp completes with ⟨workers, ran⟩
  have order := (writes_in_request_order (fun _ => 0) bobStore).1 _ workers ran
  refine ⟨workers, ran, ?_, ?_, ?_, ?_, ?_, order⟩
  all_goals
    obtain rfl := Option.some.inj ran
    rfl

end DBThread

end Mmorpg
