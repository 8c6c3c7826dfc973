import Mmorpg.World.Server

/-!
# When a request was last let through

A user remembers one time for each request with a cooldown.  Only the requests
themselves write these times: whatever else a task does to a user leaves them
alone.
-/

namespace Mmorpg

open ZoneLayout

variable {grid : CollisionGrid}

/-- The four `m_last...Time` fields of a user. -/
@[ext]
structure LastTimes where
  move : UInt32 := 0
  attack : UInt32 := 0
  skill : UInt32 := 0
  potion : UInt32 := 0
  deriving DecidableEq

/-- The four times a user remembers. -/
def User.lastTimes (user : User) : LastTimes :=
  ⟨user.lastMoveTime, user.lastAttackTime, user.lastSkillTime, user.lastPotionUseTime⟩

/-- The times of a subject, if it is a user. -/
def Subject.lastTimes (subject : Subject) : Option LastTimes :=
  match subject.body with
  | .user user => some user.lastTimes
  | _ => none

namespace World

/-- The times of a registered user. -/
def lastTimes (id : ObjID) (world : World) : Option LastTimes :=
  (world.objects id).bind Subject.lastTimes

variable {id other : ObjID} {zone : Nat} {choice : Choice grid} {world before after : World}

theorem lastTimes_of_getUser {subject : Subject} {user : User}
    (found : world.getUser id = some (subject, user)) : world.lastTimes id = some user.lastTimes := by
  obtain ⟨registered, body⟩ := getUser_eq_some.mp found
  rw [lastTimes, registered, Option.bind_some, Subject.lastTimes, body]

/-! ## Objects -/

theorem lastTimes_congr (objects : after.objects = before.objects) :
    after.lastTimes id = before.lastTimes id := by
  rw [lastTimes, lastTimes, objects]

/-- Filing another object under an identifier. -/
theorem lastTimes_update {object : Option Subject}
    (same : object.bind Subject.lastTimes = world.lastTimes other) :
    lastTimes id { world with objects := Function.update world.objects other object } =
      world.lastTimes id := by
  simp only [lastTimes, Function.update_apply]
  split
  · next here => rw [same, here, lastTimes]
  · rfl

theorem lastTimes_modify {change : Subject → Subject}
    (same : ∀ subject, (change subject).lastTimes = subject.lastTimes) :
    (world.modify other change).lastTimes id = world.lastTimes id := by
  apply lastTimes_update
  rw [lastTimes]
  cases world.objects other with
  | none => rfl
  | some subject => exact same subject

@[simp]
theorem lastTimes_modifyTransform {change : Transform → Transform} :
    (world.modifyTransform other change).lastTimes id = world.lastTimes id :=
  lastTimes_modify fun _ => rfl

theorem lastTimes_modifyUser {change : User → User}
    (same : ∀ user, (change user).lastTimes = user.lastTimes) :
    (world.modifyUser other change).lastTimes id = world.lastTimes id := by
  apply lastTimes_modify
  rintro ⟨name, transform, facing, body⟩
  cases body with
  | user user => exact congrArg some (same user)
  | monster monster => rfl
  | item item => rfl

@[simp]
theorem lastTimes_setStat {change : Stat → Stat} :
    (world.setStat other change).lastTimes id = world.lastTimes id :=
  lastTimes_modifyUser fun _ => rfl

@[simp]
theorem lastTimes_setInventory {inventory : Inventory} :
    (world.setInventory other inventory).lastTimes id = world.lastTimes id :=
  lastTimes_modifyUser fun _ => rfl

@[simp]
theorem lastTimes_modifyMonster {change : Monster → Monster} :
    (world.modifyMonster other change).lastTimes id = world.lastTimes id := by
  apply lastTimes_modify
  rintro ⟨name, transform, facing, body⟩
  cases body <;> rfl

theorem lastTimes_modifyItem {change : Item → Item} :
    (world.modifyItem other change).lastTimes id = world.lastTimes id := by
  apply lastTimes_modify
  rintro ⟨name, transform, facing, body⟩
  cases body <;> rfl

/-! ## Everything but objects -/

@[simp]
theorem lastTimes_modifyCell {sector : SectorCoord} {change : Cell → Cell} :
    (world.modifyCell zone sector change).lastTimes id = world.lastTimes id :=
  rfl

@[simp]
theorem lastTimes_updateObjectZone {zoneId : Nat} :
    (world.updateObjectZone other zoneId).lastTimes id = world.lastTimes id := by
  unfold updateObjectZone
  split <;> rfl

@[simp]
theorem lastTimes_setRoutingZoneId {session zoneId : Nat} :
    (world.setRoutingZoneId session zoneId).lastTimes id = world.lastTimes id :=
  rfl

@[simp]
theorem lastTimes_enqueueByZone {zoneId : Nat} {task : Task} :
    (world.enqueueByZone zoneId task).lastTimes id = world.lastTimes id :=
  rfl

@[simp]
theorem lastTimes_scheduleAfter {delay : Nat} {event : TimerEventType} {targetId : ObjID} :
    (world.scheduleAfter zone other delay event targetId).lastTimes id = world.lastTimes id :=
  rfl

@[simp]
theorem lastTimes_post {packets : List (Nat × ServerPacket)} :
    (world.post packets).lastTimes id = world.lastTimes id :=
  rfl

@[simp]
theorem lastTimes_send {packet : ServerPacket} :
    (world.send other packet).lastTimes id = world.lastTimes id :=
  rfl

@[simp]
theorem lastTimes_sendAll {receivers : List ObjID} {packet : ServerPacket} :
    (world.sendAll receivers packet).lastTimes id = world.lastTimes id :=
  rfl

/-! ## Moving -/

@[simp]
theorem lastTimes_removeObject {transform : Transform} :
    (world.removeObject zone other transform).lastTimes id = world.lastTimes id := by
  unfold removeObject
  split
  · rw [lastTimes_modifyTransform, lastTimes_modifyCell]
  · rfl

theorem lastTimes_updateObjectSectorAndPosition {transform : Transform} {x y : Int}
    (moved : before.updateObjectSectorAndPosition zone other transform x y = some after) :
    after.lastTimes id = before.lastTimes id := by
  simp only [updateObjectSectorAndPosition] at moved
  split at moved
  · rw [← Option.some.inj moved, lastTimes_modifyTransform]
    split
    · rw [lastTimes_modifyCell]
      split <;> rfl
    · rfl
  · contradiction

@[simp]
theorem lastTimes_updatePosition {x y : Int} :
    (world.updatePosition zone other x y).lastTimes id = world.lastTimes id := by
  unfold updatePosition
  split
  · rfl
  · split
    · rfl
    · next placed moved =>
      rw [← lastTimes_updateObjectSectorAndPosition moved]
      dsimp only
      split
      · rw [lastTimes_setRoutingZoneId]
        split
        · rw [lastTimes_updateObjectZone, lastTimes_modifyTransform]
        · rfl
      · split
        · rw [lastTimes_updateObjectZone, lastTimes_modifyTransform]
        · rfl

@[simp]
theorem lastTimes_getRandomPosition :
    (world.getRandomPosition zone choice other).lastTimes id = world.lastTimes id :=
  lastTimes_updatePosition

@[simp]
theorem lastTimes_wakeUpMonster {monsterId wakerId : ObjID} {forceWake : Bool} :
    (world.wakeUpMonster zone monsterId wakerId forceWake).lastTimes id = world.lastTimes id := by
  unfold wakeUpMonster
  split
  · split
    · rfl
    · split
      · rfl
      · split
        · rfl
        · dsimp only
          split
          · rw [lastTimes_scheduleAfter, lastTimes_modifyMonster]
          · rw [lastTimes_scheduleAfter, lastTimes_modifyMonster]
  · rfl

@[simp]
theorem lastTimes_wakeUpMonsters {ids : List ObjID} {wakerId : ObjID} {forceWake : Bool} :
    (world.wakeUpMonsters zone ids wakerId forceWake).lastTimes id = world.lastTimes id := by
  unfold wakeUpMonsters
  generalize ids.filter (fun id => id.category = .eMonster) = monsters
  induction monsters generalizing world with
  | nil => rfl
  | cons monsterId rest ih => rw [List.foldl_cons, ih, lastTimes_wakeUpMonster]

@[simp]
theorem lastTimes_notifyPlayerEnteredWorld {playerId : ObjID} {isRespawn : Bool} :
    (world.notifyPlayerEnteredWorld zone choice playerId isRespawn).lastTimes id =
      world.lastTimes id := by
  unfold notifyPlayerEnteredWorld
  split
  · rfl
  · rw [lastTimes_wakeUpMonsters, lastTimes_post]

@[simp]
theorem lastTimes_handlePlayerMove {playerId : ObjID} {x y : Int} :
    (world.handlePlayerMove zone choice playerId x y).lastTimes id = world.lastTimes id := by
  unfold handlePlayerMove
  split
  · rfl
  · dsimp only
    split
    · simp only [handleZoneTransfer, lastTimes_enqueueByZone, lastTimes_setRoutingZoneId,
        lastTimes_updateObjectZone, lastTimes_modifyTransform, lastTimes_post,
        lastTimes_removeObject]
    · unfold walk
      dsimp only
      split
      · exact lastTimes_updatePosition
      · split
        · rw [lastTimes_send, lastTimes_updatePosition]
        · rw [lastTimes_wakeUpMonsters, lastTimes_post, lastTimes_send, lastTimes_updatePosition]

theorem lastTimes_handleEnterZone {playerId : ObjID} {x y : Int} :
    (world.handleEnterZone zone choice playerId x y).lastTimes id = world.lastTimes id := by
  unfold handleEnterZone
  split
  · rfl
  · dsimp only
    rw [lastTimes_modifyTransform, lastTimes_notifyPlayerEnteredWorld]
    split
    · next moved => exact lastTimes_updateObjectSectorAndPosition moved
    · exact lastTimes_getRandomPosition

/-! ## Field items -/

theorem lastTimes_of_getItem {subject : Subject} {item : Item}
    (found : world.getItem id = some (subject, item)) : world.lastTimes id = none := by
  obtain ⟨registered, body⟩ := getItem_eq_some.mp found
  rw [lastTimes, registered, Option.bind_some, Subject.lastTimes, body]

theorem lastTimes_removeFieldItem {itemId : ObjID} {subject : Subject}
    (absent : world.lastTimes itemId = none) :
    (world.removeFieldItem zone choice itemId subject).lastTimes id = world.lastTimes id := by
  have taken : ∀ id, (((world.sendAll (world.viewers choice.hash zone subject)
      (.subjectRemoveNfy itemId)).removeObject zone itemId subject.transform).removeObjectZone
        itemId).lastTimes id = world.lastTimes id := by
    intro id
    exact (lastTimes_congr rfl).trans lastTimes_removeObject
  refine (lastTimes_update ?_).trans (taken id)
  rw [taken, absent]
  rfl

theorem lastTimes_scheduleItemTimers {itemId owner : ObjID} :
    (world.scheduleItemTimers zone itemId owner).lastTimes id = world.lastTimes id := by
  unfold scheduleItemTimers
  dsimp only
  split <;> rfl

theorem lastTimes_spawnFieldItem {item : Item} {x y : Int} {owner : ObjID}
    (spawned : world.spawnFieldItem zone choice item x y owner = some after) :
    after.lastTimes id = world.lastTimes id := by
  unfold spawnFieldItem at spawned
  dsimp only at spawned
  split at spawned
  · next free =>
    split at spawned
    · contradiction
    · rw [← Option.some.inj spawned, lastTimes_scheduleItemTimers, lastTimes_sendAll,
        lastTimes_updatePosition]
      refine (lastTimes_update ?_).trans (lastTimes_congr rfl)
      have none_ := Option.isNone_iff_eq_none.mp free.2
      rw [lastTimes]
      simp only [none_]
      rfl
  · contradiction

theorem lastTimes_handleDespawn {itemId : ObjID} :
    (world.handleDespawn zone choice itemId).lastTimes id = world.lastTimes id := by
  unfold handleDespawn
  split
  · rfl
  · next found => exact lastTimes_removeFieldItem (lastTimes_of_getItem found)

/-! ## Attacks -/

theorem lastTimes_handleItemDrop {monsterId attackerId : ObjID} {x y : Int}
    (dropped : world.handleItemDrop zone choice monsterId attackerId x y = some after) :
    after.lastTimes id = world.lastTimes id := by
  unfold handleItemDrop at dropped
  split at dropped
  · rw [Option.some.inj dropped]
  · split at dropped
    · contradiction
    · exact lastTimes_spawnFieldItem dropped

theorem lastTimes_attackMonster {monsterId playerId : ObjID} {damage : Nat}
    (hit : world.attackMonster zone choice monsterId playerId damage = some after) :
    after.lastTimes id = world.lastTimes id := by
  unfold attackMonster at hit
  split at hit
  · split at hit
    · rw [Option.some.inj hit]
    · dsimp only at hit
      split at hit
      · rw [← Option.some.inj hit, lastTimes_send, lastTimes_modifyMonster]
      · obtain ⟨dropped, rolled, rfl⟩ := Option.map_eq_some_iff.mp hit
        rw [lastTimes_scheduleAfter, lastTimes_handleItemDrop rolled]
        simp [killMonster]
  · rw [Option.some.inj hit]

theorem lastTimes_attackMonsters {playerId : ObjID} {damage : Nat} {targets : List ObjID}
    (hit : attackMonsters zone choice playerId damage targets world = some after) :
    after.lastTimes id = world.lastTimes id := by
  induction targets generalizing world with
  | nil => rw [Option.some.inj hit]
  | cons monsterId rest ih =>
      obtain ⟨middle, first, others⟩ := Option.bind_eq_some_iff.mp hit
      rw [ih others, lastTimes_attackMonster first]

theorem lastTimes_skillAttack {playerId : ObjID}
    (hit : world.skillAttack zone choice playerId = some after) :
    after.lastTimes id = world.lastTimes id := by
  unfold skillAttack at hit
  split at hit
  · rw [Option.some.inj hit]
  · split at hit
    · rw [Option.some.inj hit]
    · exact lastTimes_attackMonsters hit

theorem lastTimes_handleAttack {attackerId : ObjID} {facing : UInt8}
    (hit : world.handleAttack zone choice attackerId facing = some after) :
    after.lastTimes id = world.lastTimes id := by
  unfold handleAttack at hit
  split at hit
  · rw [Option.some.inj hit]
  · rw [lastTimes_attackMonsters hit, lastTimes_sendAll]

/-! ## Events of monsters and users -/

theorem lastTimes_replace {monsterId : ObjID} {oldList newList : List ObjID} :
    (world.replace choice monsterId oldList newList).lastTimes id = world.lastTimes id := by
  unfold replace
  split <;> rfl

theorem lastTimes_moveMonsterStep {monsterId : ObjID} {subject : Subject} {next : Int × Int} :
    (world.moveMonsterStep zone choice monsterId subject next).lastTimes id =
      world.lastTimes id := by
  have turned : (world.modify monsterId (Subject.updateFacing (next.1 - subject.x))).lastTimes id =
      world.lastTimes id := lastTimes_modify fun _ => rfl
  unfold moveMonsterStep aStarMove
  split
  · exact turned
  · rw [lastTimes_modifyMonster, lastTimes_replace, lastTimes_updatePosition, turned]

theorem lastTimes_handleRandomMove {monsterId : ObjID} :
    (world.handleRandomMove zone choice monsterId).lastTimes id = world.lastTimes id := by
  unfold handleRandomMove
  split
  · rfl
  · split
    · rfl
    · split
      · rfl
      · split
        · rw [lastTimes_scheduleAfter, randomMove]
          split
          · rfl
          · split
            · rfl
            · exact lastTimes_moveMonsterStep
        · exact lastTimes_modifyMonster

theorem lastTimes_handleMonsterRespawn {monsterId : ObjID} :
    (world.handleMonsterRespawn zone choice monsterId).lastTimes id = world.lastTimes id := by
  unfold handleMonsterRespawn
  split
  · rfl
  · dsimp only
    split
    · rw [lastTimes_getRandomPosition, lastTimes_modifyMonster]
    · split
      · simp only [lastTimes_modifyMonster, lastTimes_getRandomPosition]
      · simp only [lastTimes_sendAll, lastTimes_modifyMonster, lastTimes_getRandomPosition]

@[simp]
theorem lastTimes_tryAdvanceTowardGoal {monsterId : ObjID} {goal : Int × Int} :
    (world.tryAdvanceTowardGoal zone choice monsterId goal).2.lastTimes id =
      world.lastTimes id := by
  unfold tryAdvanceTowardGoal
  split
  · rfl
  · dsimp only
    split
    · exact lastTimes_modifyMonster
    · rw [lastTimes_moveMonsterStep, lastTimes_modifyMonster]

theorem lastTimes_returnToSpawn {monsterId targetId : ObjID} {spawn : Int × Int} :
    (world.returnToSpawn zone choice monsterId targetId spawn).lastTimes id =
      world.lastTimes id := by
  unfold returnToSpawn
  dsimp only
  split
  · rw [lastTimes_scheduleAfter, lastTimes_tryAdvanceTowardGoal]
  · rw [stopMonster, lastTimes_modifyMonster, lastTimes_tryAdvanceTowardGoal]

theorem lastTimes_afterChase {monsterId targetId : ObjID} :
    (world.afterChase zone monsterId targetId).lastTimes id = world.lastTimes id := by
  unfold afterChase
  split
  · split
    · rw [lastTimes_scheduleAfter, lastTimes_modifyMonster]
    · exact lastTimes_modifyMonster
  · rfl

theorem lastTimes_handleAggroMove {monsterId targetId : ObjID} :
    (world.handleAggroMove zone choice monsterId targetId).lastTimes id = world.lastTimes id := by
  unfold handleAggroMove
  split
  · rfl
  · split
    · rfl
    · split
      · exact lastTimes_modifyMonster
      · split
        · rfl
        · dsimp only
          split
          · rw [stopMonster, lastTimes_modifyMonster, lastTimes_modifyMonster]
          · rw [lastTimes_returnToSpawn, lastTimes_modifyMonster]
          · rw [lastTimes_scheduleAfter]
            split <;> rfl
          · rw [lastTimes_afterChase, lastTimes_tryAdvanceTowardGoal]

theorem lastTimes_handleAttackToPlayer {monsterId playerId : ObjID} :
    (world.handleAttackToPlayer zone choice monsterId playerId).lastTimes id =
      world.lastTimes id := by
  unfold handleAttackToPlayer
  split
  · dsimp only
    split
    · rw [lastTimes_modifyMonster, lastTimes_modifyMonster]
    · split
      · simp only [killPlayer, lastTimes_scheduleAfter, lastTimes_removeObject,
          lastTimes_modifyMonster, lastTimes_sendAll, lastTimes_setStat]
      · unfold surviveAttack
        dsimp only
        split
        · simp only [lastTimes_scheduleAfter, lastTimes_sendAll, lastTimes_setStat,
            lastTimes_modifyMonster]
        · simp only [lastTimes_modifyMonster, lastTimes_sendAll, lastTimes_setStat]
  · rfl

theorem lastTimes_handleHeal {thread : Nat} {playerId : ObjID} :
    (world.handleHeal thread playerId).lastTimes id = world.lastTimes id := by
  unfold handleHeal
  split
  · rfl
  · split
    · rfl
    · split
      · rfl
      · exact lastTimes_setStat

theorem lastTimes_handleUserRespawn {playerId : ObjID} :
    (world.handleUserRespawn zone choice playerId).lastTimes id = world.lastTimes id := by
  unfold handleUserRespawn
  split
  · rfl
  · dsimp only
    split
    · rw [lastTimes_setStat, lastTimes_getRandomPosition]
    · rw [lastTimes_scheduleAfter, lastTimes_notifyPlayerEnteredWorld, lastTimes_send,
        lastTimes_setStat, lastTimes_getRandomPosition]

theorem lastTimes_ifRegistered {α : Type} {found : Option α} {thread : Nat} {body : Nat → World}
    (same : ∀ zone, (body zone).lastTimes id = world.lastTimes id)
    (ran : world.ifRegistered found thread body = some after) :
    after.lastTimes id = world.lastTimes id := by
  unfold ifRegistered at ran
  split at ran
  · rw [Option.some.inj ran]
  · unfold onSector at ran
    split at ran
    · rw [← Option.some.inj ran, same]
    · contradiction

/-- No timer event lets a request through. -/
theorem lastTimes_timerTask {thread : Nat} {event : TimerEventType} {subjectId targetId : ObjID}
    (ran : world.timerTask thread choice event subjectId targetId = some after) :
    after.lastTimes id = world.lastTimes id := by
  cases event with
  | evRandomMove => exact lastTimes_ifRegistered (fun _ => lastTimes_handleRandomMove) ran
  | evMonsterRespawn => exact lastTimes_ifRegistered (fun _ => lastTimes_handleMonsterRespawn) ran
  | evMonsterAttackToUser =>
    exact lastTimes_ifRegistered (fun _ => lastTimes_handleAttackToPlayer) ran
  | evHeal => exact Option.some.inj ran ▸ lastTimes_handleHeal
  | evUserRespawn => exact lastTimes_ifRegistered (fun _ => lastTimes_handleUserRespawn) ran
  | evAggroMove => exact lastTimes_ifRegistered (fun _ => lastTimes_handleAggroMove) ran
  | evItemDespawn => exact lastTimes_ifRegistered (fun _ => lastTimes_handleDespawn) ran
  | evItemLootPriorityExpire => exact Option.some.inj ran ▸ lastTimes_modifyItem

end World

end Mmorpg
