import Mmorpg.World.Packet
import Mmorpg.Database.DBThread

/-!
# The state of the game server

Every shared object of the server in one record: the object registry, the
sector grids of all zones, the zone map, the sessions, the task queues of the
zone threads and of the default thread, the timer, and the logs of packets and
database requests.  A thread is named by its `LCurrentZoneId`; the default
thread has the invalid one and no sector grid.

What a socket does with a packet is not modelled, so the outbox holds every
packet handed to `PostSend`.
-/

namespace Mmorpg

open ZoneLayout

variable {grid : CollisionGrid}

/-! ## Sector cells -/

/-- One `unordered_set` of the sector grid. -/
structure Cell where
  ids : List ObjID
  nodup : ids.Nodup

namespace Cell

instance : Membership ObjID Cell where
  mem cell id := id ∈ cell.ids

instance (id : ObjID) (cell : Cell) : Decidable (id ∈ cell) :=
  inferInstanceAs (Decidable (id ∈ cell.ids))

/-- A cell with nobody in it. -/
def empty : Cell where
  ids := []
  nodup := List.nodup_nil

/-- Put an object into a cell, once. -/
def insert (id : ObjID) (cell : Cell) : Cell where
  ids := if id ∈ cell.ids then cell.ids else id :: cell.ids
  nodup := by
    split
    · exact cell.nodup
    · next absent => exact List.nodup_cons.mpr ⟨absent, cell.nodup⟩

/-- Take an object out of a cell. -/
def erase (id : ObjID) (cell : Cell) : Cell where
  ids := cell.ids.filter fun other => other ≠ id
  nodup := cell.nodup.filter _

@[simp]
theorem mem_ids_iff {id : ObjID} {cell : Cell} : id ∈ cell.ids ↔ id ∈ cell :=
  Iff.rfl

@[simp]
theorem not_mem_empty (id : ObjID) : id ∉ empty :=
  List.not_mem_nil

@[simp]
theorem mem_insert_iff {id other : ObjID} {cell : Cell} :
    other ∈ cell.insert id ↔ other = id ∨ other ∈ cell := by
  change other ∈ (if id ∈ cell.ids then cell.ids else id :: cell.ids) ↔ _
  split
  · next present =>
    constructor
    · exact Or.inr
    · rintro (rfl | member)
      · exact present
      · exact member
  · exact List.mem_cons

@[simp]
theorem mem_erase_iff {id other : ObjID} {cell : Cell} :
    other ∈ cell.erase id ↔ other ≠ id ∧ other ∈ cell := by
  change other ∈ cell.ids.filter (fun candidate => candidate ≠ id) ↔ _
  rw [List.mem_filter, decide_eq_true_iff]
  exact and_comm

end Cell

/-- The iteration order of the hash sets. -/
structure HashOrder where
  order : Cell → List ObjID
  perm : ∀ cell, (order cell).Perm cell.ids

/-- Iteration in the order of the model's lists. -/
def HashOrder.stored : HashOrder where
  order cell := cell.ids
  perm _ := List.Perm.refl _

theorem HashOrder.mem_order_iff (hash : HashOrder) {id : ObjID} {cell : Cell} :
    id ∈ hash.order cell ↔ id ∈ cell :=
  (hash.perm cell).mem_iff

/-! ## Sessions, tasks and timers -/

/-- The states of a session. -/
inductive SocketState
  | stFree | stAlloc | stIngame
  deriving DecidableEq, Repr

/-- A `GameSession`, stored under its `m_objectId`. -/
structure Session where
  state : SocketState := .stFree
  routingZoneId : Nat := invalidZoneId
  deriving DecidableEq, Repr

/-- The kinds of timer events. -/
inductive TimerEventType
  | evRandomMove
  | evMonsterRespawn
  | evMonsterAttackToUser
  | evHeal
  | evUserRespawn
  | evAggroMove
  | evItemDespawn
  | evItemLootPriorityExpire
  deriving DecidableEq, Repr

/-- `TIMER_EVENT`; `delay` is in milliseconds. -/
structure TimerEvent where
  subjectId : ObjID
  delay : Nat
  event : TimerEventType
  targetId : ObjID
  zoneId : Nat
  deriving DecidableEq, Repr

/-- The closures that are queued to game logic threads. -/
inductive Task
  | dispatch (session : Nat) (packet : ClientPacket)
  | closeSession (session : Nat)
  | disconnect (clientId : ObjID)
  | enterZone (playerId : ObjID) (nextX nextY : Int)
  | getUserInfo (session : Nat) (userInfo : DbUserInfo) (items : List DbItemInfo)
  | addUserInfo (session : Nat) (userInfo : DbUserInfo)
  | timer (event : TimerEventType) (subjectId targetId : ObjID)
  deriving DecidableEq, Repr

/-! ## The world -/

/-- The state that the game threads share: the registered objects, the grids of
the zones, the zone map, the sessions, the counters of identifiers, the queues
of the threads, the pending timer events, the requests to the database, and the
packets posted. -/
structure World where
  objects : ObjID → Option Subject
  cells : Nat → SectorCoord → Cell
  objectZones : ObjID → Option Nat
  sessions : Nat → Option Session
  nextObjectId : Nat
  nextFieldItemId : Nat
  queues : Nat → List Task
  timers : List TimerEvent
  dbRequests : List DBThread.DbRequest
  outbox : List (Nat × ServerPacket)

namespace World

/-- `GetGameObject<User>`. -/
def getUser (id : ObjID) (world : World) : Option (Subject × User) :=
  match world.objects id with
  | some subject =>
      match subject.body with
      | .user user => some (subject, user)
      | _ => none
  | none => none

/-- A registered monster. -/
def getMonster (id : ObjID) (world : World) : Option (Subject × Monster) :=
  match world.objects id with
  | some subject =>
      match subject.body with
      | .monster monster => some (subject, monster)
      | _ => none
  | none => none

/-- A registered item. -/
def getItem (id : ObjID) (world : World) : Option (Subject × Item) :=
  match world.objects id with
  | some subject =>
      match subject.body with
      | .item item => some (subject, item)
      | _ => none
  | none => none

theorem getUser_eq_some {id : ObjID} {world : World} {subject : Subject} {user : User} :
    world.getUser id = some (subject, user) ↔
      world.objects id = some subject ∧ subject.body = .user user := by
  unfold getUser
  cases world.objects id with
  | none => simp
  | some found => cases bodyOf : found.body <;> grind

theorem getMonster_eq_some {id : ObjID} {world : World} {subject : Subject} {monster : Monster} :
    world.getMonster id = some (subject, monster) ↔
      world.objects id = some subject ∧ subject.body = .monster monster := by
  unfold getMonster
  cases world.objects id with
  | none => simp
  | some found => cases bodyOf : found.body <;> grind

theorem getItem_eq_some {id : ObjID} {world : World} {subject : Subject} {item : Item} :
    world.getItem id = some (subject, item) ↔
      world.objects id = some subject ∧ subject.body = .item item := by
  unfold getItem
  cases world.objects id with
  | none => simp
  | some found => cases bodyOf : found.body <;> grind

/-- The state of a session, free if there is none. -/
def sessionState (session : Nat) (world : World) : SocketState :=
  match world.sessions session with
  | some record => record.state
  | none => .stFree

/-- The session of a user is in the game. -/
def isIngame (id : ObjID) (world : World) : Bool :=
  world.sessionState id.databaseId = .stIngame

/-- `GetOwner`: the owner is bound in the task that registers the user, and
the weak pointer expires when the registry drops the user. -/
def getOwner (session : Nat) (world : World) : Option (Subject × User) :=
  world.getUser (ObjID.user session)

/-! ### Changing one object -/

/-- A change of one object. -/
def modify (id : ObjID) (change : Subject → Subject) (world : World) : World :=
  { world with objects := Function.update world.objects id ((world.objects id).map change) }

/-- A change of where an object is. -/
def modifyTransform (id : ObjID) (change : Transform → Transform) (world : World) : World :=
  world.modify id fun subject => { subject with transform := change subject.transform }

/-- A change of a user; nothing for other objects. -/
def modifyUser (id : ObjID) (change : User → User) (world : World) : World :=
  world.modify id fun subject =>
    match subject.body with
    | .user user => { subject with body := .user (change user) }
    | _ => subject

/-- A change of a monster; nothing for other objects. -/
def modifyMonster (id : ObjID) (change : Monster → Monster) (world : World) : World :=
  world.modify id fun subject =>
    match subject.body with
    | .monster monster => { subject with body := .monster (change monster) }
    | _ => subject

/-- A change of an item; nothing for other objects. -/
def modifyItem (id : ObjID) (change : Item → Item) (world : World) : World :=
  world.modify id fun subject =>
    match subject.body with
    | .item item => { subject with body := .item (change item) }
    | _ => subject

/-- A change of a user's stat. -/
def setStat (id : ObjID) (change : Stat → Stat) (world : World) : World :=
  world.modifyUser id fun user => user.setStat (change user.stat)

/-- Store an inventory and hand the requests it issued to the database
thread. -/
def setInventory (id : ObjID) (inventory : Inventory) (world : World) : World :=
  { world.modifyUser id fun user => { user with inventory := { inventory with issued := [] } } with
    dbRequests := world.dbRequests ++ inventory.issued.map DBThread.DbRequest.item }

/-! ### Registry, zone map, sessions -/

/-- `GGameObjectManager->Insert`. -/
def insertObject (id : ObjID) (subject : Subject) (world : World) : World :=
  { world with objects := Function.update world.objects id (some subject) }

/-- `GGameObjectManager->Delete`. -/
def deleteObject (id : ObjID) (world : World) : World :=
  { world with objects := Function.update world.objects id none }

/-- `UpdateObjectZone` files an object under a zone, if there is such a zone. -/
def updateObjectZone (id : ObjID) (zoneId : Nat) (world : World) : World :=
  if isValidZoneId zoneId then
    { world with objectZones := Function.update world.objectZones id (some zoneId) }
  else world

/-- `GZoneManager->RemoveObject`. -/
def removeObjectZone (id : ObjID) (world : World) : World :=
  { world with objectZones := Function.update world.objectZones id none }

/-- `GetObjectZone`. -/
def getObjectZone (id : ObjID) (world : World) : Nat :=
  (world.objectZones id).getD invalidZoneId

/-- A change of one session. -/
def modifySession (session : Nat) (change : Session → Session) (world : World) : World :=
  { world with
    sessions := Function.update world.sessions session ((world.sessions session).map change) }

/-- The session's packets go to the thread of this zone from now on. -/
def setRoutingZoneId (session : Nat) (zoneId : Nat) (world : World) : World :=
  world.modifySession session fun record => { record with routingZoneId := zoneId }

/-! ### Queues, timer and logs -/

/-- The thread that serves a zone; everything else goes to the default
thread. -/
def threadOf (zoneId : Nat) : Nat :=
  if isValidZoneId zoneId then zoneId else invalidZoneId

/-- `EnqueueByZone` appends to the queue of a zone's thread. -/
def enqueueByZone (zoneId : Nat) (task : Task) (world : World) : World :=
  { world with
    queues := Function.update world.queues (threadOf zoneId)
      (world.queues (threadOf zoneId) ++ [task]) }

/-- `EnqueueByObject` looks the zone up in the zone map. -/
def enqueueByObject (id : ObjID) (task : Task) (world : World) : World :=
  world.enqueueByZone (world.getObjectZone id) task

/-- `EnqueueBySession` looks the zone up in the session. -/
def enqueueBySession (session : Nat) (task : Task) (world : World) : World :=
  let zoneId :=
    match world.sessions session with
    | some record => record.routingZoneId
    | none => invalidZoneId
  world.enqueueByZone zoneId task

/-- `ScheduleAfter` on the thread of `zone`. -/
def scheduleAfter (zone : Nat) (subjectId : ObjID) (delay : Nat) (event : TimerEventType)
    (targetId : ObjID) (world : World) : World :=
  { world with timers := world.timers ++ [⟨subjectId, delay, event, targetId, zone⟩] }

/-- A request goes to the database thread. -/
def requestDb (request : DBThread.DbRequest) (world : World) : World :=
  { world with dbRequests := world.dbRequests ++ [request] }

/-- Hand packets to `PostSend`, each with the session it goes to. -/
def post (packets : List (Nat × ServerPacket)) (world : World) : World :=
  { world with outbox := world.outbox ++ packets }

/-- Send one packet to the session of a user. -/
def send (receiver : ObjID) (packet : ServerPacket) (world : World) : World :=
  world.post [(receiver.databaseId, packet)]

/-- Send the same packet to several users. -/
def sendAll (receivers : List ObjID) (packet : ServerPacket) (world : World) : World :=
  world.post (receivers.map fun receiver => (receiver.databaseId, packet))

/-! ### Session states -/

theorem sessionState_setRoutingZoneId (session zoneId other : Nat) (world : World) :
    (world.setRoutingZoneId session zoneId).sessionState other = world.sessionState other := by
  simp only [sessionState, setRoutingZoneId, modifySession, Function.update_apply]
  split
  · next record found =>
    split at found
    · next same =>
      subst same
      rcases Option.map_eq_some_iff.mp found with ⟨old, oldFound, rfl⟩
      rw [oldFound]
    · rw [found]
  · next missing =>
    split at missing
    · next same =>
      subst same
      rw [Option.map_eq_none_iff.mp missing]
    · rw [missing]

theorem sessionState_of_sessions {before after : World} (same : after.sessions = before.sessions) (session : Nat) :
    after.sessionState session = before.sessionState session := by
  rw [World.sessionState, World.sessionState, same]

end World

end Mmorpg
