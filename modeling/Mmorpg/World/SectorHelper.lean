import Mmorpg.World.Sector

/-!
# Moving and being seen

`SectorHelper.cpp`, with `MonsterHelper::WakeUpMonster`, which it calls.  All
of it runs on the thread of `zone`.
-/

namespace Mmorpg

open ZoneLayout

variable {grid : CollisionGrid}

namespace World

/-! ## Packets about a subject -/

/-- The packet of `SendSUBJECT_ADD_NFY`. -/
def addPacket (slots : SlotOrder) (id : ObjID) (subject : Subject) : ServerPacket :=
  match subject.body with
  | .user user =>
      .subjectAddNfy id subject.x subject.y subject.name none
        (user.inventory.getEquippedItemId slots)
  | .monster monster =>
      .subjectAddNfy id subject.x subject.y subject.name (some monster.type) itemTableIdNone
  | .item item => .subjectAddNfy id subject.x subject.y subject.name none item.itemTableId

/-- `SUBJECT_MOVE_NFY` with the subject's position. -/
def movePacket (id : ObjID) (subject : Subject) : ServerPacket :=
  .subjectMoveNfy id subject.x subject.y

/-- The packet of `SendSUBJECT_RESPAWN_NFY`; items never respawn. -/
def respawnPacket (id : ObjID) (subject : Subject) : ServerPacket :=
  match subject.body with
  | .user user => .subjectRespawnNfy id subject.x subject.y user.stat.hp subject.name none
  | .monster monster =>
      .subjectRespawnNfy id subject.x subject.y monster.stat.hp subject.name (some monster.type)
  | .item _ => .subjectRespawnNfy id subject.x subject.y 0 subject.name none

/-! ## Positions -/

/-- `UpdatePosition` moves an object inside the zone of the thread; a tile of
another zone is refused. -/
def updatePosition (zone : Nat) (id : ObjID) (nextX nextY : Int) (world : World) : World :=
  match world.objects id with
  | none => world
  | some object =>
      match world.updateObjectSectorAndPosition zone id object.transform nextX nextY with
      | none => world
      | some placed =>
          let zoneId := getZoneIdByWorld nextX nextY
          let mapped :=
            if object.transform.zoneId ≠ zoneId then
              (placed.modifyTransform id fun current => { current with zoneId := zoneId })
                |>.updateObjectZone id zoneId
            else placed
          if id.category = .eUser then mapped.setRoutingZoneId id.databaseId zoneId else mapped

/-- `GetRandomPosition` moves the object to a random tile of the zone. -/
def getRandomPosition (zone : Nat) (choice : Choice grid) (id : ObjID) (world : World) : World :=
  world.updatePosition zone id (choice.zoneDraw zone).1 (choice.zoneDraw zone).2

/-! ## Visibility -/

/-- `CollectUsers`: who sees the monster. -/
def collectUsers (zone : Nat) (choice : Choice grid) (monsterId : ObjID) (world : World) :
    List ObjID :=
  match world.getMonster monsterId with
  | none => []
  | some (monster, _) => world.viewers choice.hash zone monster

/-- `CollectSubjects`: whom the player sees, where other users have to be in
the game. -/
def collectSubjects (zone : Nat) (choice : Choice grid) (playerId : ObjID) (world : World) :
    List ObjID :=
  match world.getUser playerId with
  | none => []
  | some (player, _) =>
      ((world.neighborObjects choice.hash zone player.transform.sector).filter fun entry =>
        entry.1 ≠ playerId ∧ SubjectHelper.canSee player entry.2 ∧
          (entry.1.category = .eUser → world.isIngame entry.1)).map Prod.fst

/-- `Replace`: tell the viewers of a monster what its step changed for them. -/
def replace (choice : Choice grid) (monsterId : ObjID) (oldList newList : List ObjID) (world : World) :
    World :=
  match world.objects monsterId with
  | none => world
  | some monster =>
      let registered := fun id => (world.objects id).isSome
      let added := (newList.filter registered).map fun id =>
        (id.databaseId,
          if id ∈ oldList then movePacket monsterId monster
          else addPacket choice.slots monsterId monster)
      let removed := (oldList.filter fun id => registered id ∧ id ∉ newList).map fun id =>
        (id.databaseId, ServerPacket.subjectRemoveNfy monsterId)
      world.post (added ++ removed)

/-- `WakeUpMonster`: a monster that sleeps is made active and gets its first
event. -/
def wakeUpMonster (zone : Nat) (monsterId wakerId : ObjID) (forceWake : Bool) (world : World) :
    World :=
  match world.getMonster monsterId, world.getUser wakerId with
  | some (subject, monster), some (waker, _) =>
      if monster.stat.dead then world
      else if !forceWake ∧ monster.type = .aggro ∧
          ((subject.x - waker.x).natAbs > wakeRange ∨ (subject.y - waker.y).natAbs > wakeRange) then
        world
      else if monster.active then world
      else
        let woken := world.modifyMonster monsterId fun current => { current with active := true }
        match monster.type with
        | .passive => woken.scheduleAfter zone monsterId 500 .evRandomMove ObjID.npos
        | .aggro => woken.scheduleAfter zone monsterId 500 .evAggroMove wakerId
  | _, _ => world

/-- The wake-ups of a loop over visible objects.  They touch neither positions
nor the outbox, so the loop is written as one pass of packets and one of
wake-ups. -/
def wakeUpMonsters (zone : Nat) (ids : List ObjID) (wakerId : ObjID) (forceWake : Bool)
    (world : World) : World :=
  (ids.filter fun id => id.category = .eMonster).foldl
    (fun current id => current.wakeUpMonster zone id wakerId forceWake) world

/-- The packets `NotifyPlayerEnteredWorld` sends because of one visible
object. -/
def enteredPackets (choice : Choice grid) (playerId : ObjID) (player : Subject) (isRespawn : Bool)
    (world : World) (id : ObjID) : List (Nat × ServerPacket) :=
  match world.objects id with
  | none => []
  | some object =>
      let shown := (playerId.databaseId, addPacket choice.slots id object)
      match id.category with
      | .eUser =>
          [(id.databaseId,
            if isRespawn then respawnPacket playerId player
            else addPacket choice.slots playerId player), shown]
      | .eMonster => [shown]
      | .eItem => [shown]
      | _ => []

/-- `NotifyPlayerEnteredWorld`: the player and those in view are told of each
other, and monsters wake up. -/
def notifyPlayerEnteredWorld (zone : Nat) (choice : Choice grid) (playerId : ObjID) (isRespawn : Bool)
    (world : World) : World :=
  match world.getUser playerId with
  | none => world
  | some (player, _) =>
      let visibleSubjects := world.collectSubjects zone choice playerId
      (world.post (visibleSubjects.flatMap
        (world.enteredPackets choice playerId player isRespawn)))
        |>.wakeUpMonsters zone visibleSubjects playerId isRespawn

/-- The packets for objects that drop out of a player's view: the player loses
them, and those that are users lose the player. -/
def leftPackets (playerId : ObjID) (world : World) (id : ObjID) : List (Nat × ServerPacket) :=
  (playerId.databaseId, .subjectRemoveNfy id) ::
    if id.category = .eUser ∧ (world.getUser id).isSome then
      [(id.databaseId, .subjectRemoveNfy playerId)]
    else []

/-! ## Crossing and walking -/

/-- `HandleZoneTransfer`: the player leaves its cell and the view of the
others, its new zone is published, and the thread of that zone is asked to let
it in. -/
def handleZoneTransfer (zone : Nat) (choice : Choice grid) (playerId : ObjID) (player : Subject)
    (nextX nextY : Int) (newZoneId : Nat) (world : World) : World :=
  let marked := world.modifyTransform playerId fun current =>
    { current with transferring := true }
  let oldVisible := marked.collectSubjects zone choice playerId
  let removed := marked.removeObject zone playerId player.transform
  let placed := removed.modifyTransform playerId fun current =>
    { current with x := nextX, y := nextY }
  let notified := placed.post ((playerId.databaseId, .subjectMoveNfy playerId nextX nextY) ::
    oldVisible.flatMap (placed.leftPackets playerId))
  let mapped := (notified.modifyTransform playerId fun current =>
    { current with zoneId := newZoneId }).updateObjectZone playerId newZoneId
  (mapped.setRoutingZoneId playerId.databaseId newZoneId).enqueueByZone newZoneId
    (.enterZone playerId nextX nextY)

/-- The packets of pass one of `HandlePlayerMove` for one visible object. -/
def seenPackets (choice : Choice grid) (playerId : ObjID) (player : Subject) (oldVisible : List ObjID)
    (world : World) (id : ObjID) : List (Nat × ServerPacket) :=
  match world.objects id with
  | none => []
  | some object =>
      let isNew := id ∉ oldVisible
      (if isNew then [(playerId.databaseId, addPacket choice.slots id object)] else []) ++
        if id.category = .eUser then
          [(id.databaseId,
            if isNew then addPacket choice.slots playerId player else movePacket playerId player)]
        else []

/-- The part of `HandlePlayerMove` that stays in the zone. -/
def walk (zone : Nat) (choice : Choice grid) (playerId : ObjID) (player : Subject) (nextX nextY : Int)
    (world : World) : World :=
  let oldVisible := world.collectSubjects zone choice playerId
  let updated := world.updatePosition zone playerId nextX nextY
  match updated.getUser playerId with
  | none => updated
  | some (moved, _) =>
      let echoed := updated.send playerId (movePacket playerId moved)
      if player.x = moved.x ∧ player.y = moved.y then echoed
      else
        let newVisible := echoed.collectSubjects zone choice playerId
        let seen := newVisible.flatMap (echoed.seenPackets choice playerId moved oldVisible)
        let lost := (oldVisible.filter fun id => id ∉ newVisible).flatMap
          (echoed.leftPackets playerId)
        (echoed.post (seen ++ lost)).wakeUpMonsters zone newVisible playerId false

/-- `HandlePlayerMove`: a move inside the zone, or the start of a transfer. -/
def handlePlayerMove (zone : Nat) (choice : Choice grid) (playerId : ObjID) (nextX nextY : Int)
    (world : World) : World :=
  match world.getUser playerId with
  | none => world
  | some (player, _) =>
      let newZoneId := getZoneIdByWorld nextX nextY
      if newZoneId ≠ player.transform.zoneId ∧ isValidZoneId newZoneId then
        world.handleZoneTransfer zone choice playerId player nextX nextY newZoneId
      else
        world.walk zone choice playerId player nextX nextY

/-- `HandleEnterZone`: the thread of the new zone takes the player in. -/
def handleEnterZone (zone : Nat) (choice : Choice grid) (playerId : ObjID) (nextX nextY : Int)
    (world : World) : World :=
  match world.getUser playerId with
  | none => world
  | some (player, _) =>
      let placed :=
        match world.updateObjectSectorAndPosition zone playerId player.transform nextX nextY with
        | some placed => placed
        | none => world.getRandomPosition zone choice playerId
      (placed.notifyPlayerEnteredWorld zone choice playerId false).modifyTransform playerId
        fun current => { current with transferring := false }

end World

end Mmorpg
