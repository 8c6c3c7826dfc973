import Mmorpg.World.UserHelper

/-!
# Running a task

`Route::Dispatch`, `WorkerThread::Disconnect` and the closures the timer and
the database thread queue.  `thread` is the `LCurrentZoneId` of the executing
thread.  `none` stands for a crash: a failed assertion, or a null `GSector`
dereferenced on the default thread.
-/

namespace Mmorpg

open ZoneLayout

variable {grid : CollisionGrid}

namespace World

/-- Continue with the grid of the current thread. -/
def onSector (thread : Nat) (body : Nat → Option World) : Option World :=
  if isValidZoneId thread then body thread else none

/-! ## Requests -/

/-- The checks in front of every guarded request: session state, owner, dead
flag where the request has that check, and the transfer flag. -/
def playing (session : Nat) (needsAlive : Bool) (world : World) : Option (Subject × User) :=
  if world.sessionState session ≠ .stIngame then none
  else
    match world.getOwner session with
    | none => none
    | some (client, user) =>
        if needsAlive ∧ user.stat.dead then none
        else if client.transform.transferring then none
        else some (client, user)

/-- Whom the guards of the requests let through. -/
theorem playing_eq_some {session : Nat} {needsAlive : Bool} {world : World} {client : Subject}
    {user : User} :
    world.playing session needsAlive = some (client, user) ↔
      world.sessionState session = .stIngame ∧
        world.getUser (ObjID.user session) = some (client, user) ∧
          ¬(needsAlive = true ∧ user.stat.dead = true) ∧ client.transform.transferring = false := by
  unfold playing getOwner
  split
  · next other => simp [other]
  · next ingame =>
    rw [not_not] at ingame
    cases world.getUser (ObjID.user session) with
    | none => simp
    | some found => grind

/-- Horizontal facing of a move request. -/
def faceDirection (direction : Int) (client : Subject) : Subject :=
  if direction = 2 ∨ direction = 4 ∨ direction = 6 then { client with facingLeft := true }
  else if direction = 3 ∨ direction = 5 ∨ direction = 7 then { client with facingLeft := false }
  else client

/-- `USER_MOVE_REQ`: alive, a known direction and half a second after the last
one. -/
def moveRequest (thread : Nat) (choice : Choice grid) (session : Nat) (direction : Int)
    (world : World) : Option World :=
  match world.playing session true with
  | none => some world
  | some (client, user) =>
      if direction > 7 then some world
      else if choice.now > user.lastMoveTime + 500 then
        let id := ObjID.user session
        let next := SubjectHelper.movePositionByDirection grid (client.x, client.y) direction
        let stamped := (world.modifyUser id fun current =>
          { current with lastMoveTime := choice.now }).modify id (faceDirection direction)
        onSector thread fun zone => some (stamped.handlePlayerMove zone choice id next.1 next.2)
      else some world

/-- `USER_ATTACK_REQ`: alive, and half a second after the last one. -/
def attackRequest (thread : Nat) (choice : Choice grid) (session : Nat) (facing : UInt8)
    (world : World) : Option World :=
  match world.playing session true with
  | none => some world
  | some (_, user) =>
      if choice.now > user.lastAttackTime + 500 then
        let id := ObjID.user session
        let stamped := (world.modifyUser id fun current =>
          { current with lastAttackTime := choice.now }).modify id fun client =>
            { client with facingLeft := facing == 1 }
        onSector thread fun zone => stamped.handleAttack zone choice id facing
      else some world

/-- `USER_SKILL_REQ`: alive, and five seconds after the last one. -/
def skillRequest (thread : Nat) (choice : Choice grid) (session : Nat) (world : World) :
    Option World :=
  match world.playing session true with
  | none => some world
  | some (_, user) =>
      if choice.now > user.lastSkillTime + 5000 then
        let id := ObjID.user session
        let stamped := world.modifyUser id fun current =>
          { current with lastSkillTime := choice.now }
        onSector thread fun zone => stamped.skillAttack zone choice id
      else some world

/-- `USER_TELEPORT_REQ`: alive, to a tile of the world. -/
def teleportRequest (thread : Nat) (choice : Choice grid) (session : Nat) (x y : Int) (world : World) :
    Option World :=
  match world.playing session true with
  | none => some world
  | some _ =>
      if !isValidWorldPosition x y then some world
      else
        onSector thread fun zone =>
          some (world.handlePlayerMove zone choice (ObjID.user session) x y)

/-- The slot in an equipment answer; after a success the slot has to be
filled. -/
def equipAnswer (inventory : Inventory) (index : SlotIndex) (success : Bool) :
    Option ItemSlotData :=
  if success then (inventory.itemAt index).map fun item => fillItemSlotData index (some item)
  else some { slotIndex := index }

/-- The slot in the answers that allow an emptied slot. -/
def slotAnswer (inventory : Inventory) (index : SlotIndex) (success : Bool) : ItemSlotData :=
  if success then fillItemSlotData index (inventory.itemAt index) else { slotIndex := index }

/-- `ITEM_EQUIP_REQ`: the answer, and the new weapon for those who see it. -/
def equipRequest (thread : Nat) (choice : Choice grid) (session : Nat) (index : SlotIndex)
    (world : World) : Option World :=
  match world.playing session false with
  | none => some world
  | some (_, user) =>
      let id := ObjID.user session
      let result := user.inventory.tryEquip choice.slots index
      let stored := world.setInventory id result.2
      (equipAnswer result.2 index result.1.1).bind fun slot =>
        let answered := stored.send id (.itemEquipAck result.1.1 slot)
        if result.1.1 then
          onSector thread fun zone =>
            (acquirePackets id result.2 result.1.2.toList).map
              ((answered.broadcastEquipChange zone choice id).post ·)
        else some answered

/-- `ITEM_UNEQUIP_REQ`: the answer, and the empty hand for those who see it. -/
def unequipRequest (thread : Nat) (choice : Choice grid) (session : Nat) (index : SlotIndex)
    (world : World) : Option World :=
  match world.playing session false with
  | none => some world
  | some (_, user) =>
      let id := ObjID.user session
      let result := user.inventory.tryUnequip choice.slots index
      let stored := world.setInventory id result.2
      (equipAnswer result.2 index result.1).bind fun slot =>
        let answered := stored.send id (.itemUnequipAck result.1 slot)
        if result.1 then
          onSector thread fun zone => some (answered.broadcastEquipChange zone choice id)
        else some answered

/-- `ITEM_SWAP_REQ`: the answer with both slots. -/
def swapRequest (session : Nat) (indexA indexB : SlotIndex) (world : World) : Option World :=
  match world.playing session false with
  | none => some world
  | some (_, user) =>
      let id := ObjID.user session
      let result := user.inventory.trySwapSlots indexA indexB
      some ((world.setInventory id result.2).send id (.itemSwapAck result.1
        (slotAnswer result.2 indexA result.1) (slotAnswer result.2 indexB result.1)))

/-- `ITEM_DISCARD_REQ`: what is taken out of the slot lies on the ground. -/
def discardRequest (thread : Nat) (choice : Choice grid) (session : Nat) (index : SlotIndex)
    (count : UInt16) (world : World) : Option World :=
  match world.playing session false with
  | none => some world
  | some (client, user) =>
      let id := ObjID.user session
      (user.inventory.tryExtractItem choice.slots index count).bind fun result =>
        let stored := world.setInventory id result.2
        let answer := ServerPacket.itemDiscardAck result.1.isSome
          (slotAnswer result.2 index result.1.isSome)
        match result.1 with
        | none => some (stored.send id answer)
        | some extracted =>
            onSector thread fun zone =>
              (stored.spawnFieldItem zone choice extracted client.x client.y ObjID.npos).map
                fun spawned => (spawned.broadcastEquipChange zone choice id).send id answer

/-- `ITEM_PICKUP_REQ`: an item on the user's tile that it may take. -/
def pickupRequest (thread : Nat) (choice : Choice grid) (session : Nat) (world : World) :
    Option World :=
  match world.playing session false with
  | none => some world
  | some (client, user) =>
      onSector thread fun zone => world.tryPickupAt zone choice (ObjID.user session) client user

/-- `ITEM_USE_REQ`: alive, and five seconds after the last one. -/
def useRequest (choice : Choice grid) (session : Nat) (index : SlotIndex) (world : World) :
    Option World :=
  match world.playing session true with
  | none => some world
  | some (_, user) =>
      if choice.now > user.lastPotionUseTime + 5000 then
        let id := ObjID.user session
        let stamped := world.modifyUser id fun current =>
          { current with lastPotionUseTime := choice.now }
        (user.inventory.tryUseItem index).map fun result =>
          let stored := stamped.setInventory id result.2
          let healed := if result.1 then stored.send id (.userHealInf result.2.stat.hp) else stored
          healed.send id (.itemUseAck result.1 (slotAnswer result.2 index result.1))
      else some world

/-- Chat checks only the session and its owner. -/
def chatRequest (thread : Nat) (choice : Choice grid) (session : Nat) (mess : String) (world : World) :
    Option World :=
  if world.sessionState session ≠ .stIngame then some world
  else
    match world.getOwner session with
    | none => some world
    | some _ =>
        onSector thread fun zone =>
          some (world.broadcastChat zone choice (ObjID.user session) mess)

/-- `USER_LOGIN_REQ`: a session that is not in use yet asks the database. -/
def loginRequest (session : Nat) (name password : String) (world : World) : Option World :=
  if world.sessionState session ≠ .stAlloc then some world
  else some (world.requestDb (.login session name password))

/-- `Route::Dispatch`. -/
def dispatch (thread : Nat) (choice : Choice grid) (session : Nat) (packet : ClientPacket)
    (world : World) : Option World :=
  match packet with
  | .userLoginReq name password => world.loginRequest session name password
  | .userMoveReq direction => world.moveRequest thread choice session direction
  | .userAttackReq facing => world.attackRequest thread choice session facing
  | .userSkillReq => world.skillRequest thread choice session
  | .userTeleportReq x y => world.teleportRequest thread choice session x y
  | .itemEquipReq index => world.equipRequest thread choice session index
  | .itemUnequipReq index => world.unequipRequest thread choice session index
  | .itemSwapReq indexA indexB => world.swapRequest session indexA indexB
  | .itemDiscardReq index count => world.discardRequest thread choice session index count
  | .itemPickupReq => world.pickupRequest thread choice session
  | .itemUseReq index => world.useRequest choice session index
  | .csChat mess => world.chatRequest thread choice session mess

/-! ## Disconnect -/

/-- `WorkerThread::Disconnect` past the transfer check. -/
def leaveWorld (zone : Nat) (choice : Choice grid) (clientId : ObjID) (client : Subject)
    (world : World) : World :=
  let notified := world.sendAll
    ((world.viewers choice.hash zone client).filter fun id => id ≠ clientId)
    (.subjectRemoveNfy clientId)
  let removed := notified.removeObject zone clientId client.transform
  ((removed.saveUserInfo choice clientId).deleteObject clientId).removeObjectZone clientId

/-- `Disconnect` on a game thread; a player that changes zones is left to the
thread of its new zone. -/
def disconnect (thread : Nat) (choice : Choice grid) (clientId : ObjID) (world : World) :
    Option World :=
  match world.getUser clientId with
  | none => some world
  | some (client, _) =>
      if client.transform.transferring ∧ isValidZoneId client.transform.zoneId then
        some (world.enqueueByZone client.transform.zoneId (.disconnect clientId))
      else onSector thread fun zone => some (world.leaveWorld zone choice clientId client)

/-! ## Tasks -/

/-- Tasks that return at once when their object is gone. -/
def ifRegistered {α : Type} (found : Option α) (thread : Nat) (body : Nat → World)
    (world : World) : Option World :=
  match found with
  | none => some world
  | some _ => onSector thread fun zone => some (body zone)

/-- The closures of `TimerThread::Dispatch`.  Events of monsters and items never
reach the default thread, so their early returns there are not told apart. -/
def timerTask (thread : Nat) (choice : Choice grid) (event : TimerEventType)
    (subjectId targetId : ObjID) (world : World) : Option World :=
  match event with
  | .evRandomMove =>
      world.ifRegistered (world.getMonster subjectId) thread fun zone =>
        world.handleRandomMove zone choice subjectId
  | .evMonsterRespawn =>
      world.ifRegistered (world.getMonster subjectId) thread fun zone =>
        world.handleMonsterRespawn zone choice subjectId
  | .evMonsterAttackToUser =>
      world.ifRegistered (world.getMonster subjectId) thread fun zone =>
        world.handleAttackToPlayer zone choice subjectId targetId
  | .evHeal => some (world.handleHeal thread subjectId)
  | .evUserRespawn =>
      world.ifRegistered (world.getUser subjectId) thread fun zone =>
        world.handleUserRespawn zone choice subjectId
  | .evAggroMove =>
      world.ifRegistered (world.getMonster subjectId) thread fun zone =>
        world.handleAggroMove zone choice subjectId targetId
  | .evItemDespawn =>
      world.ifRegistered (world.getItem subjectId) thread fun zone =>
        world.handleDespawn zone choice subjectId
  | .evItemLootPriorityExpire => some (world.handleLootPriorityExpire subjectId)

/-- Run one queued task on a thread. -/
def exec (thread : Nat) (choice : Choice grid) (task : Task) (world : World) : Option World :=
  match task with
  | .dispatch session packet => world.dispatch thread choice session packet
  | .closeSession _ => some world
  | .disconnect clientId => world.disconnect thread choice clientId
  | .enterZone playerId nextX nextY =>
      world.ifRegistered (world.getUser playerId) thread fun zone =>
        world.handleEnterZone zone choice playerId nextX nextY
  | .getUserInfo session userInfo items =>
      if world.sessionState session ≠ .stAlloc then some world
      else
        onSector thread fun zone =>
          some (world.handleGetUserInfo zone choice session userInfo items)
  | .addUserInfo session userInfo =>
      if world.sessionState session ≠ .stAlloc then some world
      else onSector thread fun zone => some (world.handleAddUserInfo zone choice session userInfo)
  | .timer event subjectId targetId => world.timerTask thread choice event subjectId targetId

end World

end Mmorpg
