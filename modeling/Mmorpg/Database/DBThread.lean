import Mmorpg.Database.Players
import Mmorpg.Transition.PriorityQueue

/-!
# The database thread

`DBThread.cpp`: eight shards, one worker each.  A request stamps the clock,
chooses its shard and pushes an event under the shard's lock; the worker takes
the first event by time stamp and sequence number and makes its database calls
one at a time.  Every call succeeds here.  `std::hash` is a parameter.

The steps of requesting threads and workers interleave freely; the lists
`pushed` and `committed` record the history.
-/

namespace Mmorpg.DBThread

open Transition

/-- How many shards, and as many worker threads. -/
def kShardCount : Nat := 8

/-- A shard of the database thread. -/
abbrev ShardIndex := Fin 8

/-- The shard of a player's writes; the identifier is cast to 32 bits first. -/
def shardForPlayerId (playerId : Int) : ShardIndex :=
  Fin.ofNat 8 (playerId % 4294967296).toNat

/-- The shard of a login, by the hash of the account's name. -/
def shardForName (hash : String → Nat) (name : String) : ShardIndex :=
  Fin.ofNat 8 (hash name)

/-- The events of the database thread with the data they carry. -/
inductive DbRequest
  | login (session : Nat) (name password : String)
  | saveUser (subjectId : ObjID) (name : String) (x y : Int) (level exp : Nat)
  | item (request : ItemRequest)
  deriving DecidableEq, Repr

namespace DbRequest

/-- Everything but a login writes. -/
def isWrite : DbRequest → Bool
  | login .. => false
  | _ => true

/-- The shard of a write; a login has none of its own. -/
def fixedShard (hash : String → Nat) : DbRequest → Option ShardIndex
  | login .. => none
  | saveUser _ name .. => some (shardForName hash name)
  | item request => some (shardForPlayerId request.playerId)

/-- The change a request makes to the tables; a login can only register its
name. -/
def apply {collate : String → String} (request : DbRequest) (store : Store collate) :
    Store collate :=
  match request with
  | login _ name password =>
      { store with players := store.players.insertNew name password 0 0 1 0 }
  | saveUser _ name x y level exp =>
      { store with players := store.players.savePlayerInfo name x y level exp }
  | item request => { store with inventory := store.inventory.processItem request }

end DbRequest

/-- A queued event.  `beganAt` is the sequence counter when its request began:
exactly the events with a lower number had been queued before. -/
structure DbEvent where
  request : DbRequest
  stamp : Stamp
  beganAt : Nat
  deriving DecidableEq, Repr

namespace DbEvent

/-- What an event writes is what its request writes. -/
def apply {collate : String → String} (event : DbEvent) (store : Store collate) : Store collate :=
  event.request.apply store

/-- Events are served by due time, and by number among those due together. -/
def before (first second : DbEvent) : Prop :=
  Stamp.le first.stamp second.stamp

instance : DecidableRel before := fun _ _ => inferInstanceAs (Decidable (Stamp.le _ _))

instance : Std.Total before := ⟨fun _ _ => Stamp.le_total _ _⟩

instance : IsTrans DbEvent before := ⟨fun _ _ _ => Stamp.le_trans⟩

end DbEvent

/-- How far `ProcessEvent` got with a login. -/
inductive LoginPhase
  | received
  | registered
  | extracted (userInfo : DbUserInfo)
  | unregistered
  deriving DecidableEq, Repr

/-- A shard: its queue, and the event its worker is processing. -/
structure Shard where
  events : PriorityQueue DbEvent.before
  working : Option (DbEvent × LoginPhase)

/-- A request in progress on some thread. -/
structure DbCall where
  request : DbRequest
  wakeupTime : Nat
  beganAt : Nat
  shard : Option ShardIndex
  deriving DecidableEq, Repr

/-- What a finished login hands to a zone thread. -/
inductive LoginResult
  | getUserInfo (session : Nat) (userInfo : DbUserInfo) (items : List DbItemInfo)
  | addUserInfo (session : Nat) (userInfo : DbUserInfo)
  deriving DecidableEq, Repr

/-- The state of the database thread: the clock, the counters of `RequestLogin`
and of the sequence numbers, calls that are under way, the shards, the tables,
and as history the events pushed and the events committed. -/
structure System (collate : String → String) where
  now : Nat
  nextSequence : Nat
  roundRobinCursor : Nat
  calls : List DbCall
  shards : ShardIndex → Shard
  store : Store collate
  pushed : List (ShardIndex × DbEvent)
  committed : List DbEvent
  results : List LoginResult

variable {collate : String → String}

/-- The thread before any request. -/
def boot (store : Store collate) : System collate where
  now := 0
  nextSequence := 0
  roundRobinCursor := 0
  calls := []
  shards := fun _ => ⟨.empty, none⟩
  store := store
  pushed := []
  committed := []
  results := []

namespace System

/-- Stamp a new request with the clock. -/
def issue (request : DbRequest) (system : System collate) : System collate :=
  { system with
    calls := system.calls ++ [⟨request, system.now, system.nextSequence, none⟩] }

/-- Choose the shard of a stamped request; logins go round robin. -/
def route (hash : String → Nat) (index : Nat) (system : System collate) :
    Option (System collate) :=
  match system.calls[index]? with
  | none => none
  | some call =>
      if call.shard.isSome then
        none
      else
        match call.request.fixedShard hash with
        | some shard =>
            some { system with calls := system.calls.set index { call with shard := some shard } }
        | none =>
            some
              { system with
                calls := system.calls.set index
                  { call with shard := some (Fin.ofNat 8 system.roundRobinCursor) }
                roundRobinCursor := (system.roundRobinCursor + 1) % 4294967296 }

/-- `ScheduleOnShard`: number the event and push it, under the shard's lock. -/
def schedule (index : Nat) (system : System collate) : Option (System collate) :=
  match system.calls[index]? with
  | none => none
  | some call =>
      match call.shard with
      | none => none
      | some shard =>
          let event : DbEvent :=
            ⟨call.request, ⟨call.wakeupTime, system.nextSequence⟩, call.beganAt⟩
          let target := system.shards shard
          some
            { system with
              nextSequence := system.nextSequence + 1
              calls := system.calls.eraseIdx index
              shards := Function.update system.shards shard
                { target with events := target.events.push event }
              pushed := system.pushed ++ [(shard, event)] }

/-- The worker of a shard takes the first event once its time has come. -/
def takeEvent (shard : ShardIndex) (system : System collate) : Option (System collate) :=
  let source := system.shards shard
  match source.working with
  | some _ => none
  | none =>
      match source.events.pop with
      | none => none
      | some (event, rest) =>
          if event.stamp.wakeupTime ≤ system.now then
            some
              { system with
                shards := Function.update system.shards shard
                  ⟨rest, some (event, .received)⟩ }
          else none

/-- Put an event on a shard's worker, or take it off. -/
def setWorking (shard : ShardIndex) (working : Option (DbEvent × LoginPhase))
    (system : System collate) : System collate :=
  { system with
    shards := Function.update system.shards shard
      { system.shards shard with working := working } }

/-- Make the change of the event in hand. -/
def commit (event : DbEvent) (system : System collate) : System collate :=
  { system with
    store := event.apply system.store
    committed := system.committed ++ [event] }

/-- The next database call of `ProcessEvent`. -/
def process (shard : ShardIndex) (system : System collate) : Option (System collate) :=
  match (system.shards shard).working with
  | none => none
  | some (event, phase) =>
      match event.request with
      | .login session name password =>
          match phase with
          | .received =>
              if system.store.players.isPlayerRegistered name then
                some (system.setWorking shard (some (event, .registered)))
              else
                some (system.setWorking shard (some (event, .unregistered)))
          | .registered =>
              some (system.setWorking shard
                (some (event, .extracted (system.store.players.extractUserInfo name))))
          | .extracted userInfo =>
              let items := system.store.inventory.extractInventory userInfo.playerId
              some
                { system.setWorking shard none with
                  results := system.results ++ [.getUserInfo session userInfo items] }
          | .unregistered =>
              let added := system.store.players.addNewPlayer name password 0 0 1 0
              some
                { (system.commit event).setWorking shard none with
                  results := system.results ++ [.addUserInfo session
                    { playerId := added.2.getD 0, name := name, password := password }] }
      | _ => some ((system.commit event).setWorking shard none)

end System

/-- One step of a requesting thread, a worker or the clock. -/
inductive Label
  | tick (elapsed : Nat)
  | issue (request : DbRequest)
  | route (index : Nat)
  | schedule (index : Nat)
  | takeEvent (shard : ShardIndex)
  | process (shard : ShardIndex)
  deriving DecidableEq, Repr

/-- One step of the database thread. -/
def step (hash : String → Nat) (label : Label) (system : System collate) :
    Option (System collate) :=
  match label with
  | .tick elapsed => some { system with now := system.now + elapsed }
  | .issue request => some (system.issue request)
  | .route index => system.route hash index
  | .schedule index => system.schedule index
  | .takeEvent shard => system.takeEvent shard
  | .process shard => system.process shard

end Mmorpg.DBThread
