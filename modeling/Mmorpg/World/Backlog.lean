import Mmorpg.World.Server

/-!
# Work that was there before

Tasks never look at the queues and the timer: they only add to them.  So a task
does the same whatever waits in front of what it adds.
-/

namespace Mmorpg

open ZoneLayout Transition

variable {grid : CollisionGrid}

namespace World

variable {queues : Nat → List Task} {timers : List TimerEvent} {world : World} {zone : Nat}
  {choice : Choice grid} {id other : ObjID}

/-- The world with work in front of its queues and its timer. -/
def ahead (queues : Nat → List Task) (timers : List TimerEvent) (world : World) : World :=
  { world with
    queues := fun thread => queues thread ++ world.queues thread
    timers := timers ++ world.timers }

/-! ## Reading -/

section Read

variable (queues timers world)

@[simp]
theorem objects_ahead : (world.ahead queues timers).objects = world.objects := rfl

@[simp]
theorem sessions_ahead : (world.ahead queues timers).sessions = world.sessions := rfl

@[simp]
theorem nextFieldItemId_ahead :
    (world.ahead queues timers).nextFieldItemId = world.nextFieldItemId := rfl

@[simp]
theorem getUser_ahead : (world.ahead queues timers).getUser id = world.getUser id := rfl

@[simp]
theorem getMonster_ahead : (world.ahead queues timers).getMonster id = world.getMonster id := rfl

@[simp]
theorem getItem_ahead : (world.ahead queues timers).getItem id = world.getItem id := rfl

@[simp]
theorem sessionState_ahead (session : Nat) :
    (world.ahead queues timers).sessionState session = world.sessionState session := rfl

@[simp]
theorem isIngame_ahead : (world.ahead queues timers).isIngame id = world.isIngame id := rfl

@[simp]
theorem getOwner_ahead (session : Nat) :
    (world.ahead queues timers).getOwner session = world.getOwner session := rfl

@[simp]
theorem neighborObjects_ahead (hash : HashOrder) (sector : SectorCoord) :
    (world.ahead queues timers).neighborObjects hash zone sector =
      world.neighborObjects hash zone sector := rfl

@[simp]
theorem viewers_ahead (hash : HashOrder) (target : Subject) :
    (world.ahead queues timers).viewers hash zone target = world.viewers hash zone target := rfl

@[simp]
theorem collectUsers_ahead :
    (world.ahead queues timers).collectUsers zone choice id = world.collectUsers zone choice id := rfl

@[simp]
theorem collectSubjects_ahead : (world.ahead queues timers).collectSubjects zone choice id =
    world.collectSubjects zone choice id := rfl

@[simp]
theorem playing_ahead (session : Nat) (needsAlive : Bool) :
    (world.ahead queues timers).playing session needsAlive = world.playing session needsAlive := rfl

end Read

/-! ## Small changes -/

@[simp]
theorem modify_ahead (change : Subject → Subject) : (world.ahead queues timers).modify id change =
    (world.modify id change).ahead queues timers := rfl

@[simp]
theorem modifyTransform_ahead (change : Transform → Transform) :
    (world.ahead queues timers).modifyTransform id change =
      (world.modifyTransform id change).ahead queues timers := rfl

@[simp]
theorem modifyUser_ahead (change : User → User) :
    (world.ahead queues timers).modifyUser id change =
      (world.modifyUser id change).ahead queues timers := rfl

@[simp]
theorem modifyMonster_ahead (change : Monster → Monster) :
    (world.ahead queues timers).modifyMonster id change =
      (world.modifyMonster id change).ahead queues timers := rfl

@[simp]
theorem setStat_ahead (change : Stat → Stat) : (world.ahead queues timers).setStat id change =
    (world.setStat id change).ahead queues timers := rfl

@[simp]
theorem setInventory_ahead (inventory : Inventory) :
    (world.ahead queues timers).setInventory id inventory =
      (world.setInventory id inventory).ahead queues timers := rfl

@[simp]
theorem deleteObject_ahead : (world.ahead queues timers).deleteObject id =
    (world.deleteObject id).ahead queues timers := rfl

@[simp]
theorem removeObjectZone_ahead : (world.ahead queues timers).removeObjectZone id =
    (world.removeObjectZone id).ahead queues timers := rfl

@[simp]
theorem updateObjectZone_ahead (zoneId : Nat) :
    (world.ahead queues timers).updateObjectZone id zoneId =
      (world.updateObjectZone id zoneId).ahead queues timers := by
  unfold updateObjectZone
  split <;> rfl

@[simp]
theorem setRoutingZoneId_ahead (session zoneId : Nat) :
    (world.ahead queues timers).setRoutingZoneId session zoneId =
      (world.setRoutingZoneId session zoneId).ahead queues timers := rfl

@[simp]
theorem post_ahead (packets : List (Nat × ServerPacket)) :
    (world.ahead queues timers).post packets = (world.post packets).ahead queues timers := rfl

@[simp]
theorem send_ahead (packet : ServerPacket) : (world.ahead queues timers).send id packet =
    (world.send id packet).ahead queues timers := rfl

@[simp]
theorem sendAll_ahead (receivers : List ObjID) (packet : ServerPacket) :
    (world.ahead queues timers).sendAll receivers packet =
      (world.sendAll receivers packet).ahead queues timers := rfl

/-! ## Adding work -/

@[simp]
theorem enqueueByZone_ahead (zoneId : Nat) (task : Task) :
    (world.ahead queues timers).enqueueByZone zoneId task =
      (world.enqueueByZone zoneId task).ahead queues timers := by
  unfold enqueueByZone ahead
  congr 1
  funext thread
  by_cases same : thread = threadOf zoneId
  · subst same
    simp
  · simp [same]

@[simp]
theorem enqueueByObject_ahead (task : Task) :
    (world.ahead queues timers).enqueueByObject id task =
      (world.enqueueByObject id task).ahead queues timers :=
  enqueueByZone_ahead _ _

@[simp]
theorem enqueueBySession_ahead (session : Nat) (task : Task) :
    (world.ahead queues timers).enqueueBySession session task =
      (world.enqueueBySession session task).ahead queues timers :=
  enqueueByZone_ahead _ _

@[simp]
theorem scheduleAfter_ahead (delay : Nat) (event : TimerEventType) :
    (world.ahead queues timers).scheduleAfter zone id delay event other =
      (world.scheduleAfter zone id delay event other).ahead queues timers := by
  unfold scheduleAfter ahead
  rw [List.append_assoc]

/-! ## Sectors -/

@[simp]
theorem updateObjectSectorAndPosition_ahead (transform : Transform) (x y : Int) :
    (world.ahead queues timers).updateObjectSectorAndPosition zone id transform x y =
      (world.updateObjectSectorAndPosition zone id transform x y).map (ahead queues timers) := by
  unfold updateObjectSectorAndPosition
  dsimp only
  split_ifs <;> rfl

@[simp]
theorem removeObject_ahead (transform : Transform) :
    (world.ahead queues timers).removeObject zone id transform =
      (world.removeObject zone id transform).ahead queues timers := by
  unfold removeObject
  split <;> rfl

@[simp]
theorem updatePosition_ahead (x y : Int) : (world.ahead queues timers).updatePosition zone id x y =
    (world.updatePosition zone id x y).ahead queues timers := by
  unfold updatePosition
  rw [objects_ahead]
  split
  · rfl
  · rw [updateObjectSectorAndPosition_ahead]
    cases world.updateObjectSectorAndPosition zone id _ x y with
    | none => rfl
    | some placed =>
      simp only [Option.map_some]
      split <;> split <;> simp

@[simp]
theorem getRandomPosition_ahead : (world.ahead queues timers).getRandomPosition zone choice id =
    (world.getRandomPosition zone choice id).ahead queues timers :=
  updatePosition_ahead _ _

/-! ## Visibility and moving -/

@[simp]
theorem replace_ahead (oldList newList : List ObjID) :
    (world.ahead queues timers).replace choice id oldList newList =
      (world.replace choice id oldList newList).ahead queues timers := by
  unfold replace
  rw [objects_ahead]
  split <;> rfl

@[simp]
theorem wakeUpMonster_ahead (forceWake : Bool) :
    (world.ahead queues timers).wakeUpMonster zone id other forceWake =
      (world.wakeUpMonster zone id other forceWake).ahead queues timers := by
  unfold wakeUpMonster
  rw [getMonster_ahead, getUser_ahead]
  split
  · split_ifs
    · rfl
    · rfl
    · rfl
    · rw [modifyMonster_ahead]
      dsimp only
      split <;> exact scheduleAfter_ahead _ _
  · rfl

@[simp]
theorem wakeUpMonsters_ahead (ids : List ObjID) (forceWake : Bool) :
    (world.ahead queues timers).wakeUpMonsters zone ids other forceWake =
      (world.wakeUpMonsters zone ids other forceWake).ahead queues timers := by
  unfold wakeUpMonsters
  induction ids.filter fun id => id.category = .eMonster generalizing world with
  | nil => rfl
  | cons id rest ih => rw [List.foldl_cons, List.foldl_cons, wakeUpMonster_ahead, ih]

@[simp]
theorem notifyPlayerEnteredWorld_ahead (isRespawn : Bool) :
    (world.ahead queues timers).notifyPlayerEnteredWorld zone choice id isRespawn =
      (world.notifyPlayerEnteredWorld zone choice id isRespawn).ahead queues timers := by
  unfold notifyPlayerEnteredWorld
  rw [getUser_ahead]
  split
  · rfl
  · dsimp only
    rw [collectSubjects_ahead, post_ahead, wakeUpMonsters_ahead]
    rfl

@[simp]
theorem handleZoneTransfer_ahead (player : Subject) (x y : Int) (newZoneId : Nat) :
    (world.ahead queues timers).handleZoneTransfer zone choice id player x y newZoneId =
      (world.handleZoneTransfer zone choice id player x y newZoneId).ahead queues timers := by
  unfold handleZoneTransfer
  simp only [modifyTransform_ahead, removeObject_ahead, post_ahead, updateObjectZone_ahead,
    setRoutingZoneId_ahead, enqueueByZone_ahead, collectSubjects_ahead]
  rfl

@[simp]
theorem walk_ahead (player : Subject) (x y : Int) :
    (world.ahead queues timers).walk zone choice id player x y =
      (world.walk zone choice id player x y).ahead queues timers := by
  unfold walk
  dsimp only
  rw [updatePosition_ahead, getUser_ahead]
  split
  · rfl
  · split
    · rfl
    · rw [send_ahead, collectSubjects_ahead, collectSubjects_ahead, post_ahead,
        wakeUpMonsters_ahead]
      rfl

@[simp]
theorem handlePlayerMove_ahead (x y : Int) :
    (world.ahead queues timers).handlePlayerMove zone choice id x y =
      (world.handlePlayerMove zone choice id x y).ahead queues timers := by
  unfold handlePlayerMove
  rw [getUser_ahead]
  split
  · rfl
  · dsimp only
    split
    · exact handleZoneTransfer_ahead _ _ _ _
    · exact walk_ahead _ _ _

@[simp]
theorem handleEnterZone_ahead (x y : Int) :
    (world.ahead queues timers).handleEnterZone zone choice id x y =
      (world.handleEnterZone zone choice id x y).ahead queues timers := by
  unfold handleEnterZone
  rw [getUser_ahead]
  split
  · rfl
  · rw [updateObjectSectorAndPosition_ahead, getRandomPosition_ahead]
    cases world.updateObjectSectorAndPosition zone id _ x y with
    | none => simp
    | some placed => simp

/-! ## Monsters -/

@[simp]
theorem aStarMove_ahead (x y : Int) : (world.ahead queues timers).aStarMove zone choice id x y =
    (world.aStarMove zone choice id x y).ahead queues timers := by
  unfold aStarMove
  rw [getMonster_ahead]
  split
  · rfl
  · dsimp only
    rw [updatePosition_ahead, collectUsers_ahead, replace_ahead, modifyMonster_ahead]

@[simp]
theorem moveMonsterStep_ahead (subject : Subject) (next : Int × Int) :
    (world.ahead queues timers).moveMonsterStep zone choice id subject next =
      (world.moveMonsterStep zone choice id subject next).ahead queues timers := by
  rw [moveMonsterStep, moveMonsterStep, modify_ahead, aStarMove_ahead]

@[simp]
theorem randomMove_ahead : (world.ahead queues timers).randomMove zone choice id =
    (world.randomMove zone choice id).ahead queues timers := by
  unfold randomMove
  rw [getMonster_ahead]
  split
  · rfl
  · split
    · rfl
    · exact moveMonsterStep_ahead _ _

@[simp]
theorem handleRandomMove_ahead : (world.ahead queues timers).handleRandomMove zone choice id =
    (world.handleRandomMove zone choice id).ahead queues timers := by
  unfold handleRandomMove
  rw [getMonster_ahead]
  split
  · rfl
  · next subject monster _ =>
    have target : (world.ahead queues timers).attackTarget zone choice subject =
      world.attackTarget zone choice subject := rfl
    rw [target, viewers_ahead, randomMove_ahead]
    split_ifs
    · rfl
    · split
      · exact scheduleAfter_ahead _ _
      · exact scheduleAfter_ahead _ _
    · split
      · exact scheduleAfter_ahead _ _
      · rfl

@[simp]
theorem handleMonsterRespawn_ahead :
    (world.ahead queues timers).handleMonsterRespawn zone choice id =
      (world.handleMonsterRespawn zone choice id).ahead queues timers := by
  unfold handleMonsterRespawn
  rw [getMonster_ahead]
  split
  · rfl
  · dsimp only
    rw [modifyMonster_ahead, getRandomPosition_ahead, objects_ahead]
    split
    · rfl
    · rw [modifyMonster_ahead, objects_ahead]
      split <;> rfl

/-- The step of a monster depends on the registry and the grid. -/
theorem tryAdvanceTowardGoal_ahead (goal : Int × Int) :
    (world.ahead queues timers).tryAdvanceTowardGoal zone choice id goal =
      ((world.tryAdvanceTowardGoal zone choice id goal).1,
        (world.tryAdvanceTowardGoal zone choice id goal).2.ahead queues timers) := by
  unfold tryAdvanceTowardGoal
  rw [getMonster_ahead]
  split
  · rfl
  · dsimp only
    rw [modifyMonster_ahead]
    split
    · rfl
    · rw [moveMonsterStep_ahead]

@[simp]
theorem returnToSpawn_ahead (spawn : Int × Int) :
    (world.ahead queues timers).returnToSpawn zone choice id other spawn =
      (world.returnToSpawn zone choice id other spawn).ahead queues timers := by
  unfold returnToSpawn
  rw [tryAdvanceTowardGoal_ahead]
  dsimp only
  split
  · exact scheduleAfter_ahead _ _
  · rfl

@[simp]
theorem afterChase_ahead : (world.ahead queues timers).afterChase zone id other =
    (world.afterChase zone id other).ahead queues timers := by
  unfold afterChase
  rw [objects_ahead]
  split
  · split
    · rw [modifyMonster_ahead, scheduleAfter_ahead]
    · rfl
  · rfl

@[simp]
theorem handleAggroMove_ahead : (world.ahead queues timers).handleAggroMove zone choice id other =
    (world.handleAggroMove zone choice id other).ahead queues timers := by
  unfold handleAggroMove
  rw [getMonster_ahead, objects_ahead]
  split
  · rfl
  · next subject monster _ =>
    have chasable : (world.ahead queues timers).isChasable subject other =
      world.isChasable subject other := rfl
    rw [chasable]
    split
    · rfl
    · split
      · rfl
      · split
        · rfl
        · dsimp only
          split
          · rfl
          · rw [modifyMonster_ahead, returnToSpawn_ahead]
          · split
            · exact scheduleAfter_ahead _ _
            · rw [scheduleAfter_ahead, scheduleAfter_ahead]
          · rw [tryAdvanceTowardGoal_ahead, afterChase_ahead]

@[simp]
theorem killPlayer_ahead (victim : Subject) (hp : Nat) :
    (world.ahead queues timers).killPlayer zone choice id other victim hp =
      (world.killPlayer zone choice id other victim hp).ahead queues timers := by
  unfold killPlayer
  dsimp only
  rw [viewers_ahead, sendAll_ahead, modifyMonster_ahead, removeObject_ahead, scheduleAfter_ahead]

@[simp]
theorem surviveAttack_ahead (subject victim : Subject) (hp : Nat) :
    (world.ahead queues timers).surviveAttack zone choice id other subject victim hp =
      (world.surviveAttack zone choice id other subject victim hp).ahead queues timers := by
  unfold surviveAttack
  dsimp only
  rw [viewers_ahead, sendAll_ahead]
  split
  · exact scheduleAfter_ahead _ _
  · rfl

@[simp]
theorem handleAttackToPlayer_ahead :
    (world.ahead queues timers).handleAttackToPlayer zone choice id other =
      (world.handleAttackToPlayer zone choice id other).ahead queues timers := by
  unfold handleAttackToPlayer
  rw [getMonster_ahead, getUser_ahead]
  split
  · next subject monster victim user _ _ =>
    have misses : (world.ahead queues timers).attackMisses subject monster other victim =
      world.attackMisses subject monster other victim := rfl
    dsimp only
    rw [misses, modifyMonster_ahead, setStat_ahead, killPlayer_ahead, surviveAttack_ahead]
    split_ifs <;> rfl
  · rfl

/-! ## Field items -/

@[simp]
theorem removeFieldItem_ahead (subject : Subject) :
    (world.ahead queues timers).removeFieldItem zone choice id subject =
      (world.removeFieldItem zone choice id subject).ahead queues timers := by
  unfold removeFieldItem
  dsimp only
  rw [viewers_ahead, sendAll_ahead, removeObject_ahead, removeObjectZone_ahead, deleteObject_ahead]

@[simp]
theorem scheduleItemTimers_ahead : (world.ahead queues timers).scheduleItemTimers zone id other =
    (world.scheduleItemTimers zone id other).ahead queues timers := by
  unfold scheduleItemTimers
  dsimp only
  rw [scheduleAfter_ahead]
  split
  · exact scheduleAfter_ahead _ _
  · rfl

@[simp]
theorem spawnFieldItem_ahead (item : Item) (x y : Int) :
    (world.ahead queues timers).spawnFieldItem zone choice item x y other =
      (world.spawnFieldItem zone choice item x y other).map (ahead queues timers) := by
  unfold spawnFieldItem
  dsimp only
  rw [objects_ahead, nextFieldItemId_ahead]
  split
  · have placed : ({ world with nextFieldItemId := world.nextFieldItemId + 1 }.insertObject
          (ObjID.item world.nextFieldItemId) (fieldSubject item other) |>.ahead queues timers
        |>.updatePosition zone (ObjID.item world.nextFieldItemId) x y) = _ := updatePosition_ahead x y
    -- both sides count the item in their own world, which agrees by definition only
    erw [placed]
    rw [objects_ahead]
    split
    · rfl
    · rw [viewers_ahead, sendAll_ahead, scheduleItemTimers_ahead]
      rfl
  · rfl

@[simp]
theorem tryPickupAt_ahead (player : Subject) (user : User) :
    (world.ahead queues timers).tryPickupAt zone choice id player user =
      (world.tryPickupAt zone choice id player user).map (ahead queues timers) := by
  have target : (world.ahead queues timers).pickupTarget zone choice id player =
    world.pickupTarget zone choice id player := rfl
  unfold tryPickupAt
  rw [target]
  split
  · rfl
  · split
    · rfl
    · rfl
    · split
      · rfl
      · dsimp only
        rw [setInventory_ahead, removeFieldItem_ahead]
        rfl

@[simp]
theorem handleDespawn_ahead : (world.ahead queues timers).handleDespawn zone choice id =
    (world.handleDespawn zone choice id).ahead queues timers := by
  unfold handleDespawn
  rw [getItem_ahead]
  split
  · rfl
  · exact removeFieldItem_ahead _

/-! ## Attacks -/

@[simp]
theorem handleItemDrop_ahead (x y : Int) :
    (world.ahead queues timers).handleItemDrop zone choice id other x y =
      (world.handleItemDrop zone choice id other x y).map (ahead queues timers) := by
  unfold handleItemDrop
  split
  · rfl
  · split
    · rfl
    · exact spawnFieldItem_ahead _ _ _

@[simp]
theorem killMonster_ahead (subject : Subject) (monster : Monster) (attacker : User) :
    (world.ahead queues timers).killMonster zone choice id other subject monster attacker =
      (world.killMonster zone choice id other subject monster attacker).ahead queues timers := by
  unfold killMonster
  dsimp only
  rw [viewers_ahead, sendAll_ahead, removeObject_ahead, modifyMonster_ahead, setStat_ahead,
    send_ahead]

@[simp]
theorem attackMonster_ahead (damage : Nat) :
    (world.ahead queues timers).attackMonster zone choice id other damage =
      (world.attackMonster zone choice id other damage).map (ahead queues timers) := by
  unfold attackMonster
  rw [getMonster_ahead, getUser_ahead]
  split
  · dsimp only
    rw [modifyMonster_ahead, killMonster_ahead, handleItemDrop_ahead]
    split_ifs
    · rfl
    · rfl
    · rw [Option.map_map, Option.map_map]
      congr 1
      funext dropped
      exact scheduleAfter_ahead _ _
  · rfl

@[simp]
theorem attackMonsters_ahead (damage : Nat) (targets : List ObjID) :
    attackMonsters zone choice id damage targets (world.ahead queues timers) =
      (attackMonsters zone choice id damage targets world).map (ahead queues timers) := by
  induction targets generalizing world with
  | nil => rfl
  | cons target rest ih =>
    rw [attackMonsters, attackMonsters, attackMonster_ahead]
    cases world.attackMonster zone choice target id damage with
    | none => rfl
    | some hit => exact ih

@[simp]
theorem skillAttack_ahead : (world.ahead queues timers).skillAttack zone choice id =
    (world.skillAttack zone choice id).map (ahead queues timers) := by
  unfold skillAttack
  rw [getUser_ahead]
  split
  · rfl
  · dsimp only
    split
    · rfl
    · rw [neighborObjects_ahead, attackMonsters_ahead]

@[simp]
theorem handleAttack_ahead (facing : UInt8) :
    (world.ahead queues timers).handleAttack zone choice id facing =
      (world.handleAttack zone choice id facing).map (ahead queues timers) := by
  unfold handleAttack
  rw [getUser_ahead]
  split
  · rfl
  · dsimp only
    rw [neighborObjects_ahead, viewers_ahead, sendAll_ahead, attackMonsters_ahead]

/-! ## Users -/

@[simp]
theorem broadcastEquipChange_ahead :
    (world.ahead queues timers).broadcastEquipChange zone choice id =
      (world.broadcastEquipChange zone choice id).ahead queues timers := by
  unfold broadcastEquipChange
  rw [getUser_ahead]
  split <;> rfl

@[simp]
theorem broadcastChat_ahead (mess : String) :
    (world.ahead queues timers).broadcastChat zone choice id mess =
      (world.broadcastChat zone choice id mess).ahead queues timers := by
  unfold broadcastChat
  rw [getUser_ahead]
  split <;> rfl

@[simp]
theorem handleHeal_ahead : (world.ahead queues timers).handleHeal zone id =
    (world.handleHeal zone id).ahead queues timers := by
  unfold handleHeal
  rw [getUser_ahead]
  split
  · rfl
  · rw [isIngame_ahead]
    split_ifs
    · rfl
    · rfl
    · dsimp only
      rw [setStat_ahead, send_ahead, scheduleAfter_ahead]

@[simp]
theorem handleUserRespawn_ahead : (world.ahead queues timers).handleUserRespawn zone choice id =
    (world.handleUserRespawn zone choice id).ahead queues timers := by
  unfold handleUserRespawn
  rw [getUser_ahead]
  split
  · rfl
  · dsimp only
    rw [getRandomPosition_ahead, setStat_ahead, objects_ahead]
    split
    · rfl
    · rw [send_ahead, notifyPlayerEnteredWorld_ahead, scheduleAfter_ahead]

@[simp]
theorem saveUserInfo_ahead : (world.ahead queues timers).saveUserInfo choice id =
    (world.saveUserInfo choice id).ahead queues timers := by
  unfold saveUserInfo
  rw [getUser_ahead]
  split
  · rfl
  · split <;> rfl

@[simp]
theorem finishLogin_ahead (session : Nat) (withItems : Bool) :
    (world.ahead queues timers).finishLogin zone choice session withItems =
      (world.finishLogin zone choice session withItems).ahead queues timers := by
  unfold finishLogin
  dsimp only
  rw [getUser_ahead]
  split
  · rfl
  · split
    · rw [send_ahead, send_ahead, scheduleAfter_ahead, notifyPlayerEnteredWorld_ahead]
    · rw [send_ahead, scheduleAfter_ahead, notifyPlayerEnteredWorld_ahead]

@[simp]
theorem placeLoadedUser_ahead (session : Nat) (userInfo : DbUserInfo) :
    (world.ahead queues timers).placeLoadedUser zone choice session userInfo =
      (world.placeLoadedUser zone choice session userInfo).ahead queues timers := by
  unfold placeLoadedUser
  dsimp only
  rw [updatePosition_ahead, updatePosition_ahead, getUser_ahead]
  split
  · rfl
  · split <;> rfl

@[simp]
theorem handleGetUserInfo_ahead (session : Nat) (userInfo : DbUserInfo) (items : List DbItemInfo) :
    (world.ahead queues timers).handleGetUserInfo zone choice session userInfo items =
      (world.handleGetUserInfo zone choice session userInfo items).ahead queues timers := by
  have published (subject : Subject) : (world.ahead queues timers).publishUser session subject =
    (world.publishUser session subject).ahead queues timers := rfl
  unfold handleGetUserInfo
  dsimp only
  rw [sessionState_ahead, objects_ahead, published, placeLoadedUser_ahead, finishLogin_ahead]
  split_ifs <;> rfl

@[simp]
theorem handleAddUserInfo_ahead (session : Nat) (userInfo : DbUserInfo) :
    (world.ahead queues timers).handleAddUserInfo zone choice session userInfo =
      (world.handleAddUserInfo zone choice session userInfo).ahead queues timers := by
  have published (subject : Subject) : (world.ahead queues timers).publishUser session subject =
    (world.publishUser session subject).ahead queues timers := rfl
  unfold handleAddUserInfo
  dsimp only
  rw [sessionState_ahead, objects_ahead, published, getRandomPosition_ahead, finishLogin_ahead]
  split_ifs <;> rfl

/-! ## Requests -/

section Requests

variable {thread session : Nat}

/-- A continuation on the sector of the thread. -/
theorem onSector_ahead {body later : Nat → Option World}
    (same : ∀ zone, later zone = (body zone).map (ahead queues timers)) :
    onSector thread later = (onSector thread body).map (ahead queues timers) := by
  unfold onSector
  split
  · exact same thread
  · rfl

theorem moveRequest_ahead (direction : Int) :
    (world.ahead queues timers).moveRequest thread choice session direction =
      (world.moveRequest thread choice session direction).map (ahead queues timers) := by
  unfold moveRequest
  rw [playing_ahead]
  split
  · rfl
  · dsimp only
    split_ifs
    · rfl
    · refine onSector_ahead fun zone => ?_
      rw [modifyUser_ahead, modify_ahead, handlePlayerMove_ahead]
      rfl
    · rfl

theorem attackRequest_ahead (facing : UInt8) :
    (world.ahead queues timers).attackRequest thread choice session facing =
      (world.attackRequest thread choice session facing).map (ahead queues timers) := by
  unfold attackRequest
  rw [playing_ahead]
  split
  · rfl
  · dsimp only
    split_ifs
    · refine onSector_ahead fun zone => ?_
      rw [modifyUser_ahead, modify_ahead, handleAttack_ahead]
    · rfl

theorem skillRequest_ahead : (world.ahead queues timers).skillRequest thread choice session =
    (world.skillRequest thread choice session).map (ahead queues timers) := by
  unfold skillRequest
  rw [playing_ahead]
  split
  · rfl
  · dsimp only
    split_ifs
    · refine onSector_ahead fun zone => ?_
      rw [modifyUser_ahead, skillAttack_ahead]
    · rfl

theorem teleportRequest_ahead (x y : Int) :
    (world.ahead queues timers).teleportRequest thread choice session x y =
      (world.teleportRequest thread choice session x y).map (ahead queues timers) := by
  unfold teleportRequest
  rw [playing_ahead]
  split
  · rfl
  · split_ifs
    · rfl
    · refine onSector_ahead fun zone => ?_
      rw [handlePlayerMove_ahead]
      rfl

theorem equipRequest_ahead (index : SlotIndex) :
    (world.ahead queues timers).equipRequest thread choice session index =
      (world.equipRequest thread choice session index).map (ahead queues timers) := by
  unfold equipRequest
  rw [playing_ahead]
  split
  · rfl
  · next client user _ =>
    dsimp only
    rw [setInventory_ahead, Option.map_bind]
    congr 1
    funext slot
    rw [send_ahead]
    dsimp only [Function.comp]
    split_ifs
    · refine onSector_ahead fun zone => ?_
      rw [broadcastEquipChange_ahead, Option.map_map]
      rfl
    · rfl

theorem unequipRequest_ahead (index : SlotIndex) :
    (world.ahead queues timers).unequipRequest thread choice session index =
      (world.unequipRequest thread choice session index).map (ahead queues timers) := by
  unfold unequipRequest
  rw [playing_ahead]
  split
  · rfl
  · dsimp only
    rw [setInventory_ahead, Option.map_bind]
    congr 1
    funext slot
    rw [send_ahead]
    dsimp only [Function.comp]
    split_ifs
    · refine onSector_ahead fun zone => ?_
      rw [broadcastEquipChange_ahead]
      rfl
    · rfl

theorem swapRequest_ahead (indexA indexB : SlotIndex) :
    (world.ahead queues timers).swapRequest session indexA indexB =
      (world.swapRequest session indexA indexB).map (ahead queues timers) := by
  unfold swapRequest
  rw [playing_ahead]
  split <;> rfl

theorem discardRequest_ahead (index : SlotIndex) (count : UInt16) :
    (world.ahead queues timers).discardRequest thread choice session index count =
      (world.discardRequest thread choice session index count).map (ahead queues timers) := by
  unfold discardRequest
  rw [playing_ahead]
  split
  · rfl
  · dsimp only
    rw [Option.map_bind]
    congr 1
    funext result
    rw [setInventory_ahead]
    dsimp only [Function.comp]
    split
    · rfl
    · refine onSector_ahead fun zone => ?_
      rw [spawnFieldItem_ahead, Option.map_map, Option.map_map]
      congr 1
      funext spawned
      dsimp only [Function.comp]
      rw [broadcastEquipChange_ahead, send_ahead]

theorem pickupRequest_ahead : (world.ahead queues timers).pickupRequest thread choice session =
    (world.pickupRequest thread choice session).map (ahead queues timers) := by
  unfold pickupRequest
  rw [playing_ahead]
  split
  · rfl
  · exact onSector_ahead fun zone => tryPickupAt_ahead _ _

theorem useRequest_ahead (index : SlotIndex) :
    (world.ahead queues timers).useRequest choice session index =
      (world.useRequest choice session index).map (ahead queues timers) := by
  unfold useRequest
  rw [playing_ahead]
  split
  · rfl
  · dsimp only
    split_ifs
    · rw [modifyUser_ahead, Option.map_map]
      congr 1
      funext result
      dsimp only [Function.comp]
      rw [setInventory_ahead]
      split <;> rfl
    · rfl

theorem chatRequest_ahead (mess : String) :
    (world.ahead queues timers).chatRequest thread choice session mess =
      (world.chatRequest thread choice session mess).map (ahead queues timers) := by
  unfold chatRequest
  rw [sessionState_ahead, getOwner_ahead]
  split
  · rfl
  · split
    · rfl
    · refine onSector_ahead fun zone => ?_
      rw [broadcastChat_ahead]
      rfl

theorem loginRequest_ahead (name password : String) :
    (world.ahead queues timers).loginRequest session name password =
      (world.loginRequest session name password).map (ahead queues timers) := by
  unfold loginRequest
  rw [sessionState_ahead]
  split <;> rfl

/-- A handler does not look at what waits in front. -/
theorem dispatch_ahead (packet : ClientPacket) :
    (world.ahead queues timers).dispatch thread choice session packet =
      (world.dispatch thread choice session packet).map (ahead queues timers) := by
  cases packet with
  | userLoginReq name password => exact loginRequest_ahead name password
  | userMoveReq direction => exact moveRequest_ahead direction
  | userAttackReq facing => exact attackRequest_ahead facing
  | userSkillReq => exact skillRequest_ahead
  | userTeleportReq x y => exact teleportRequest_ahead x y
  | itemEquipReq index => exact equipRequest_ahead index
  | itemUnequipReq index => exact unequipRequest_ahead index
  | itemSwapReq indexA indexB => exact swapRequest_ahead indexA indexB
  | itemDiscardReq index count => exact discardRequest_ahead index count
  | itemPickupReq => exact pickupRequest_ahead
  | itemUseReq index => exact useRequest_ahead index
  | csChat mess => exact chatRequest_ahead mess

end Requests

/-! ## Tasks -/

section Tasks

variable {thread : Nat}

/-- A disconnect does not look at what waits in front. -/
theorem disconnect_ahead : (world.ahead queues timers).disconnect thread choice id =
    (world.disconnect thread choice id).map (ahead queues timers) := by
  unfold disconnect
  rw [getUser_ahead]
  split
  · rfl
  · split
    · rw [enqueueByZone_ahead]
      rfl
    · refine onSector_ahead fun zone => ?_
      unfold leaveWorld
      dsimp only
      rw [viewers_ahead, sendAll_ahead, removeObject_ahead, saveUserInfo_ahead, deleteObject_ahead,
        removeObjectZone_ahead]
      rfl

theorem ifRegistered_ahead {α : Type} {found : Option α} {body later : Nat → World}
    (same : ∀ zone, later zone = (body zone).ahead queues timers) :
    (world.ahead queues timers).ifRegistered found thread later =
      (world.ifRegistered found thread body).map (ahead queues timers) := by
  unfold ifRegistered
  split
  · rfl
  · exact onSector_ahead fun zone => congrArg some (same zone)

/-- A timer event's handler does not look at what waits in front. -/
theorem timerTask_ahead (event : TimerEventType) :
    (world.ahead queues timers).timerTask thread choice event id other =
      (world.timerTask thread choice event id other).map (ahead queues timers) := by
  cases event with
  | evRandomMove => exact ifRegistered_ahead fun zone => handleRandomMove_ahead
  | evMonsterRespawn => exact ifRegistered_ahead fun zone => handleMonsterRespawn_ahead
  | evMonsterAttackToUser => exact ifRegistered_ahead fun zone => handleAttackToPlayer_ahead
  | evHeal => exact congrArg some handleHeal_ahead
  | evUserRespawn => exact ifRegistered_ahead fun zone => handleUserRespawn_ahead
  | evAggroMove => exact ifRegistered_ahead fun zone => handleAggroMove_ahead
  | evItemDespawn => exact ifRegistered_ahead fun zone => handleDespawn_ahead
  | evItemLootPriorityExpire => rfl

/-- A task does the same behind any backlog. -/
theorem exec_ahead (task : Task) : (world.ahead queues timers).exec thread choice task =
    (world.exec thread choice task).map (ahead queues timers) := by
  cases task with
  | dispatch session packet => exact dispatch_ahead packet
  | closeSession session => rfl
  | disconnect clientId => exact disconnect_ahead
  | enterZone playerId x y => exact ifRegistered_ahead fun zone => handleEnterZone_ahead x y
  | getUserInfo session userInfo items =>
    unfold exec
    dsimp only
    rw [sessionState_ahead]
    split
    · rfl
    · exact onSector_ahead fun zone => congrArg some (handleGetUserInfo_ahead session userInfo items)
  | addUserInfo session userInfo =>
    unfold exec
    dsimp only
    rw [sessionState_ahead]
    split
    · rfl
    · exact onSector_ahead fun zone => congrArg some (handleAddUserInfo_ahead session userInfo)
  | timer event subjectId targetId => exact timerTask_ahead event

end Tasks

end World

/-! ## Steps of the server -/

namespace Server

open World

variable {collate : String → String} {queues : Nat → List Task} {timers : List TimerEvent}
  {server : Server collate}

/-- A server with more tasks and events in front of its own. -/
def ahead (queues : Nat → List Task) (timers : List TimerEvent) (server : Server collate) :
    Server collate :=
  { server with world := server.world.ahead queues timers }

/-- The timer thread appends behind what waits. -/
theorem dispatchTimer_ahead (event : TimerEvent) (world : World) :
    dispatchTimer event (world.ahead queues timers) =
      (dispatchTimer event world).ahead queues timers := by
  rw [dispatchTimer_eq, dispatchTimer_eq, enqueueByZone_ahead]
  rfl

/-- The database thread appends behind what waits. -/
theorem handOver_ahead (server : Server collate) {session : Nat} (outcome : LoginOutcome) :
    (server.ahead queues timers).handOver session outcome =
      (server.handOver session outcome).ahead queues timers := by
  cases outcome with
  | dropped => rfl
  | loginFail => rfl
  | getUserInfo userInfo items =>
    simp only [handOver, ahead, enqueueByZone_ahead]
  | addUserInfo userInfo =>
    simp only [handOver, ahead, enqueueByZone_ahead]

/-- The other threads work behind a backlog as well. -/
theorem step_ahead {label : Label grid} (noFire : ∀ index, label ≠ .fire index)
    (noTask : ∀ thread choice, label ≠ .run thread choice) :
    step label (server.ahead queues timers) = (step label server).map (ahead queues timers) := by
  cases label with
  | accept =>
    change Server.accept _ = (Server.accept server).map _
    unfold Server.accept
    dsimp only [ahead, World.ahead]
    split <;> rfl
  | receive session packet =>
    change Server.receive _ _ _ = (Server.receive _ _ server).map _
    unfold Server.receive
    simp only [ahead, sessions_ahead, enqueueBySession_ahead]
    split <;> rfl
  | hangUp session =>
    change Server.hangUp _ _ = (Server.hangUp _ server).map _
    unfold Server.hangUp
    simp only [ahead, sessions_ahead, getOwner_ahead, enqueueByObject_ahead, enqueueByZone_ahead]
    split_ifs <;> rfl
  | fire index => exact absurd rfl (noFire index)
  | database index calls written =>
    change Server.database _ _ _ _ = (Server.database _ _ _ server).map _
    unfold Server.database
    dsimp only [ahead, World.ahead]
    split
    · rfl
    · split
      · next session name password _ =>
        let processed := server.store.processLogin calls name password
        exact congrArg some (handOver_ahead ⟨{ server.world with
          dbRequests := server.world.dbRequests.eraseIdx index }, processed.1,
          server.newUserCounter⟩ processed.2)
      · split <;> rfl
  | run thread choice => exact absurd rfl (noTask thread choice)

end Server

end Mmorpg
