import Mmorpg.World.Route
import Mmorpg.Database.Login

/-!
# The running server

One step at a time: a connection is accepted, a worker queues a packet or a
disconnect, the timer fires an event, a database worker finishes a request, or
a game logic thread runs the first task of its queue.  The steps interleave in
any order.  Delays only order timer events in real time, so any pending event
may fire next; likewise any pending database request may be processed next.
-/

namespace Mmorpg

open ZoneLayout Transition

variable {grid : CollisionGrid}

/-- The world, the tables, and the counter of new users. -/
structure Server (collate : String → String) where
  world : World
  store : Store collate
  newUserCounter : Nat

namespace Server

variable {collate : String → String}

/-- A client connects, sends or hangs up, a timer event fires, the database
serves a request, or a game thread runs its next task. -/
inductive Label (grid : CollisionGrid)
  | accept
  | receive (session : Nat) (packet : ClientPacket)
  | hangUp (session : Nat)
  | fire (index : Nat)
  | database (index : Nat) (calls : LoginCalls) (written : Bool)
  | run (thread : Nat) (choice : Choice grid)

/-- `IO_ACCEPT`: `CreateSession` hands out player identifiers until the monster
range begins. -/
def accept (server : Server collate) : Option (Server collate) :=
  let id := server.world.nextObjectId
  if id < monsterIdStart then
    some
      { server with
        world :=
          { server.world with
            sessions := Function.update server.world.sessions id (some { state := .stAlloc })
            nextObjectId := id + 1 } }
  else none

/-- `EnqueuePacketDispatch`. -/
def receive (session : Nat) (packet : ClientPacket) (server : Server collate) :
    Option (Server collate) :=
  if (server.world.sessions session).isSome then
    some { server with
      world := server.world.enqueueBySession session (.dispatch session packet) }
  else none

/-- `EnqueueDisconnect`. -/
def hangUp (session : Nat) (server : Server collate) : Option (Server collate) :=
  if (server.world.sessions session).isSome then
    if (server.world.getOwner session).isSome then
      let id := ObjID.user session
      some { server with world := server.world.enqueueByObject id (.disconnect id) }
    else
      some { server with
        world := server.world.enqueueByZone invalidZoneId (.closeSession session) }
  else none

/-- `TimerThread::Dispatch`: user events look their zone up, all others go to
the zone that scheduled them. -/
def dispatchTimer (event : TimerEvent) (world : World) : World :=
  let task := Task.timer event.event event.subjectId event.targetId
  let hintedZone := if event.subjectId.category = .eUser then invalidZoneId else event.zoneId
  if isValidZoneId hintedZone then world.enqueueByZone hintedZone task
  else world.enqueueByObject event.subjectId task

/-- The zone a timer event is queued for. -/
def timerZone (event : TimerEvent) (world : World) : Nat :=
  if event.subjectId.category ≠ .eUser ∧ isValidZoneId event.zoneId = true then event.zoneId
  else world.getObjectZone event.subjectId

/-- An event becomes a task on the thread of its zone. -/
theorem dispatchTimer_eq (event : TimerEvent) (world : World) :
    dispatchTimer event world = world.enqueueByZone (timerZone event world)
      (.timer event.event event.subjectId event.targetId) := by
  unfold dispatchTimer timerZone World.enqueueByObject
  dsimp only
  by_cases user : event.subjectId.category = .eUser
  · simp [user]
  · simp only [user, if_false, ne_eq, not_false_eq_true, true_and]
    split <;> rfl

/-- The timer thread dispatches one of the pending events. -/
def fire (index : Nat) (server : Server collate) : Option (Server collate) :=
  match server.world.timers[index]? with
  | none => none
  | some event =>
      some { server with
        world := dispatchTimer event
          { server.world with timers := server.world.timers.eraseIdx index } }

/-- Hand a processed login over to a game logic thread. -/
def handOver (session : Nat) (outcome : LoginOutcome) (server : Server collate) : Server collate :=
  match outcome with
  | .dropped => server
  | .loginFail => { server with world := server.world.handleLoginFail session }
  | .getUserInfo userInfo items =>
      { server with
        world := server.world.enqueueByZone (getZoneIdByWorld userInfo.x userInfo.y)
          (.getUserInfo session userInfo items) }
  | .addUserInfo userInfo =>
      { server with
        world := server.world.enqueueByZone (server.newUserCounter % zoneCount.toNat)
          (.addUserInfo session userInfo)
        newUserCounter := (server.newUserCounter + 1) % 4294967296 }

/-- `ProcessEvent` on one pending request; `written` tells whether a write
reaches the tables. -/
def database (index : Nat) (calls : LoginCalls) (written : Bool) (server : Server collate) :
    Option (Server collate) :=
  match server.world.dbRequests[index]? with
  | none => none
  | some request =>
      let taken :=
        { server with
          world := { server.world with dbRequests := server.world.dbRequests.eraseIdx index } }
      match request with
      | .login session name password =>
          let processed := server.store.processLogin calls name password
          some ({ taken with store := processed.1 }.handOver session processed.2)
      | write => some (if written then { taken with store := write.apply server.store } else taken)

/-- A game logic thread runs the first task of its queue. -/
def runThread (thread : Nat) (choice : Choice grid) (server : Server collate) :
    Option (Server collate) :=
  match server.world.queues thread with
  | [] => none
  | task :: rest =>
      ({ server.world with queues := Function.update server.world.queues thread rest }.exec thread
        choice task).map fun world => { server with world := world }

/-- One step of the server. -/
def step (label : Label grid) (server : Server collate) : Option (Server collate) :=
  match label with
  | .accept => server.accept
  | .receive session packet => server.receive session packet
  | .hangUp session => server.hangUp session
  | .fire index => server.fire index
  | .database index calls written => server.database index calls written
  | .run thread choice => server.runThread thread choice

/-- Objects and cells change in tasks only. -/
theorem step_objects {label : Label grid} {before after : Server collate}
    (taken : step label before = some after) (noTask : ∀ thread choice, label ≠ .run thread choice) :
    after.world.objects = before.world.objects ∧ after.world.cells = before.world.cells := by
  cases label with
  | accept =>
    simp only [step, accept] at taken
    split at taken
    · exact Option.some.inj taken ▸ ⟨rfl, rfl⟩
    · contradiction
  | receive session packet =>
    simp only [step, receive] at taken
    split at taken
    · exact Option.some.inj taken ▸ ⟨rfl, rfl⟩
    · contradiction
  | hangUp session =>
    simp only [step, hangUp] at taken
    split at taken
    · split at taken
      · exact Option.some.inj taken ▸ ⟨rfl, rfl⟩
      · exact Option.some.inj taken ▸ ⟨rfl, rfl⟩
    · contradiction
  | fire index =>
    simp only [step, fire] at taken
    split at taken
    · contradiction
    · rw [← Option.some.inj taken]
      dsimp only
      rw [dispatchTimer_eq]
      exact ⟨rfl, rfl⟩
  | database index calls written =>
    simp only [step, database] at taken
    split at taken
    · contradiction
    · split at taken
      · rw [← Option.some.inj taken]
        unfold handOver
        split <;> exact ⟨rfl, rfl⟩
      · rw [← Option.some.inj taken]
        split <;> exact ⟨rfl, rfl⟩
  | run thread choice => exact absurd rfl (noTask thread choice)

end Server

/-! ## Start of the server -/

namespace World

/-- The world before any zone thread runs. -/
def empty : World where
  objects := fun _ => none
  cells := fun _ _ => Cell.empty
  objectZones := fun _ => none
  sessions := fun _ => none
  nextObjectId := 1
  nextFieldItemId := 1
  queues := fun _ => []
  timers := []
  dbRequests := []
  outbox := []

/-- One iteration of `InitForZone`, with the position drawn for the monster. -/
def initMonster (zone : Nat) (draw : Nat → Int × Int) (world : World) (index : Nat) : World :=
  let databaseId := monsterIdStart + index
  let monsterId := ObjID.monster databaseId
  let created := world.insertObject monsterId
    { name := s!"Monster{databaseId}", body := .monster (Monster.initInstance databaseId) }
  let placed := created.updatePosition zone monsterId (draw index).1 (draw index).2
  placed.modifyMonster monsterId fun monster =>
    { monster with spawnX := (draw index).1, spawnY := (draw index).2 }

/-- `InitForZone`: every sixteenth of `count` monsters. -/
def initForZone (count : Nat) (draw : Nat → Int × Int) (world : World) (zone : Nat) : World :=
  ((List.range count).filter fun index => index % zoneCount.toNat = zone).foldl
    (initMonster zone draw) world

/-- The world once all zone threads have placed their monsters. -/
def boot (count : Nat) (draw : Nat → Int × Int) : World :=
  (List.range zoneCount.toNat).foldl (initForZone count draw) empty

end World

/-- The server at the start, with `count` monsters. -/
def Server.boot {collate : String → String} (count : Nat) (draw : Nat → Int × Int)
    (store : Store collate) : Server collate where
  world := World.boot count draw
  store := store
  newUserCounter := 0

/-- The draws of `GetRandomPosition` at the start: free tiles of the monster's
zone. -/
def ValidDraws (grid : CollisionGrid) (draw : Nat → Int × Int) : Prop :=
  ∀ index, getZoneIdByWorld (draw index).1 (draw index).2 = index % zoneCount.toNat ∧
    isCollision grid (draw index).1 (draw index).2 = false

end Mmorpg
