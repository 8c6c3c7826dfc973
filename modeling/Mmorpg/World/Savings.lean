import Mmorpg.Database.Settled
import Mmorpg.World.Server

/-!
# What a user has saved and has yet to save

The savings of the world: the account and the inventory of every user, and the
requests that wait for the database.  Inventory requests, logins and departures
change them; nothing else a task does touches them.
-/

namespace Mmorpg

open ZoneLayout

variable {grid : CollisionGrid}

/-- What is kept of a user: its account, its slots and the requests of its
inventory that nobody has picked up. -/
structure Belongings where
  name : String
  playerId : Int
  slots : Slots
  issued : List ItemRequest

/-- What a user owns; other subjects own nothing. -/
def Subject.belongings (subject : Subject) : Option Belongings :=
  match subject.body with
  | .user user =>
      some ⟨subject.name, user.inventory.playerId, user.inventory.slots, user.inventory.issued⟩
  | _ => none

/-- What players own in the world, and the requests to the database. -/
@[ext]
structure Savings where
  belongings : ObjID → Option Belongings
  requests : List DBThread.DbRequest

namespace World

/-- What a registered user owns. -/
def belongings (id : ObjID) (world : World) : Option Belongings :=
  (world.objects id).bind Subject.belongings

/-- The part of the world that the tables follow. -/
def savings (world : World) : Savings where
  belongings id := world.belongings id
  requests := world.dbRequests

variable {world before after : World} {zone session : Nat} {choice : Choice grid}

theorem belongings_eq_some {id : ObjID} {belongings : Belongings} :
    world.belongings id = some belongings ↔ ∃ subject user,
      world.getUser id = some (subject, user) ∧ belongings =
        ⟨subject.name, user.inventory.playerId, user.inventory.slots, user.inventory.issued⟩ := by
  simp only [World.belongings, Option.bind_eq_some_iff, getUser_eq_some]
  constructor
  · rintro ⟨subject, found, same⟩
    cases bodyOf : subject.body with
    | user user =>
        rw [Subject.belongings, bodyOf, Option.some.injEq] at same
        exact ⟨subject, user, ⟨found, bodyOf⟩, same.symm⟩
    | monster monster => simp [Subject.belongings, bodyOf] at same
    | item item => simp [Subject.belongings, bodyOf] at same
  · rintro ⟨subject, user, ⟨found, bodyOf⟩, rfl⟩
    exact ⟨subject, found, by rw [Subject.belongings, bodyOf]⟩

/-- The savings depend on objects and requests. -/
theorem savings_congr (objects : after.objects = before.objects)
    (requests : after.dbRequests = before.dbRequests) : after.savings = before.savings := by
  simp only [savings, belongings, objects, requests]

theorem belongings_of_savings (same : after.savings = before.savings) (id : ObjID) :
    after.belongings id = before.belongings id :=
  congrFun (congrArg Savings.belongings same) id

/-! ## Objects -/

theorem savings_objects {id : ObjID} {object : Option Subject}
    (same : object.bind Subject.belongings = world.belongings id) :
    savings { world with objects := Function.update world.objects id object } = world.savings := by
  refine Savings.ext (funext fun other => ?_) rfl
  simp only [savings, belongings, Function.update_apply]
  split
  · next here => rw [here, same, belongings]
  · rfl

theorem savings_modify {id : ObjID} {change : Subject → Subject}
    (same : ∀ subject, (change subject).belongings = subject.belongings) :
    (world.modify id change).savings = world.savings := by
  apply savings_objects
  rw [belongings]
  cases world.objects id with
  | none => rfl
  | some subject => exact same subject

@[simp]
theorem savings_modifyTransform {id : ObjID} {change : Transform → Transform} :
    (world.modifyTransform id change).savings = world.savings :=
  savings_modify fun _ => rfl

/-- A change of a user that keeps its inventory. -/
theorem savings_modifyUser {id : ObjID} {change : User → User}
    (playerId : ∀ user, (change user).inventory.playerId = user.inventory.playerId)
    (slots : ∀ user, (change user).inventory.slots = user.inventory.slots)
    (issued : ∀ user, (change user).inventory.issued = user.inventory.issued) :
    (world.modifyUser id change).savings = world.savings := by
  apply savings_modify
  rintro ⟨name, transform, facing, body⟩
  cases body with
  | user user => simp [Subject.belongings, playerId, slots, issued]
  | monster monster => rfl
  | item item => rfl

@[simp]
theorem savings_setStat {id : ObjID} {change : Stat → Stat} :
    (world.setStat id change).savings = world.savings :=
  savings_modifyUser (fun _ => rfl) (fun _ => rfl) fun _ => rfl

@[simp]
theorem savings_modifyMonster {id : ObjID} {change : Monster → Monster} :
    (world.modifyMonster id change).savings = world.savings := by
  apply savings_modify
  rintro ⟨name, transform, facing, body⟩
  cases body <;> rfl

@[simp]
theorem savings_modifyItem {id : ObjID} {change : Item → Item} :
    (world.modifyItem id change).savings = world.savings := by
  apply savings_modify
  rintro ⟨name, transform, facing, body⟩
  cases body <;> rfl

/-! ## Everything else -/

@[simp]
theorem savings_post {packets : List (Nat × ServerPacket)} :
    (world.post packets).savings = world.savings :=
  rfl

@[simp]
theorem savings_send {receiver : ObjID} {packet : ServerPacket} :
    (world.send receiver packet).savings = world.savings :=
  rfl

@[simp]
theorem savings_sendAll {receivers : List ObjID} {packet : ServerPacket} :
    (world.sendAll receivers packet).savings = world.savings :=
  rfl

@[simp]
theorem savings_modifyCell {sector : SectorCoord} {change : Cell → Cell} :
    (world.modifyCell zone sector change).savings = world.savings :=
  rfl

@[simp]
theorem savings_updateObjectZone {id : ObjID} {zoneId : Nat} :
    (world.updateObjectZone id zoneId).savings = world.savings := by
  unfold updateObjectZone
  split <;> rfl

@[simp]
theorem savings_removeObjectZone {id : ObjID} :
    (world.removeObjectZone id).savings = world.savings :=
  rfl

@[simp]
theorem savings_setRoutingZoneId {other zoneId : Nat} :
    (world.setRoutingZoneId other zoneId).savings = world.savings :=
  rfl

@[simp]
theorem savings_enqueueByZone {zoneId : Nat} {task : Task} :
    (world.enqueueByZone zoneId task).savings = world.savings :=
  rfl

@[simp]
theorem savings_scheduleAfter {id targetId : ObjID} {delay : Nat} {event : TimerEventType} :
    (world.scheduleAfter zone id delay event targetId).savings = world.savings :=
  rfl

@[simp]
theorem savings_removeObject {id : ObjID} {transform : Transform} :
    (world.removeObject zone id transform).savings = world.savings := by
  unfold removeObject
  split
  · rw [savings_modifyTransform, savings_modifyCell]
  · rfl

theorem savings_updateObjectSectorAndPosition {id : ObjID} {transform : Transform} {x y : Int}
    (moved : before.updateObjectSectorAndPosition zone id transform x y = some after) :
    after.savings = before.savings := by
  simp only [updateObjectSectorAndPosition] at moved
  split at moved
  · rw [← Option.some.inj moved, savings_modifyTransform]
    split
    · rw [savings_modifyCell]
      split
      · exact savings_modifyCell
      · rfl
    · rfl
  · contradiction

@[simp]
theorem savings_updatePosition {id : ObjID} {x y : Int} :
    (world.updatePosition zone id x y).savings = world.savings := by
  unfold updatePosition
  split
  · rfl
  · split
    · rfl
    · next placed moved =>
      rw [← savings_updateObjectSectorAndPosition moved]
      dsimp only
      split
      · rw [savings_setRoutingZoneId]
        split
        · rw [savings_updateObjectZone, savings_modifyTransform]
        · rfl
      · split
        · rw [savings_updateObjectZone, savings_modifyTransform]
        · rfl

/-! ## Moving -/

@[simp]
theorem savings_wakeUpMonster {monsterId wakerId : ObjID} {forceWake : Bool} :
    (world.wakeUpMonster zone monsterId wakerId forceWake).savings = world.savings := by
  unfold wakeUpMonster
  split
  · split
    · rfl
    · split
      · rfl
      · split
        · rfl
        · dsimp only
          split
          · rw [savings_scheduleAfter, savings_modifyMonster]
          · rw [savings_scheduleAfter, savings_modifyMonster]
  · rfl

@[simp]
theorem savings_wakeUpMonsters {ids : List ObjID} {wakerId : ObjID} {forceWake : Bool} :
    (world.wakeUpMonsters zone ids wakerId forceWake).savings = world.savings := by
  unfold wakeUpMonsters
  generalize ids.filter (fun id => id.category = .eMonster) = monsters
  induction monsters generalizing world with
  | nil => rfl
  | cons id rest ih => rw [List.foldl_cons, ih, savings_wakeUpMonster]

@[simp]
theorem savings_notifyPlayerEnteredWorld {playerId : ObjID} {isRespawn : Bool} :
    (world.notifyPlayerEnteredWorld zone choice playerId isRespawn).savings = world.savings := by
  unfold notifyPlayerEnteredWorld
  split
  · rfl
  · rw [savings_wakeUpMonsters, savings_post]

@[simp]
theorem savings_handlePlayerMove {playerId : ObjID} {x y : Int} :
    (world.handlePlayerMove zone choice playerId x y).savings = world.savings := by
  unfold handlePlayerMove
  split
  · rfl
  · dsimp only
    split
    · simp only [handleZoneTransfer, savings_enqueueByZone, savings_setRoutingZoneId,
        savings_updateObjectZone, savings_modifyTransform, savings_post, savings_removeObject]
    · unfold walk
      dsimp only
      split
      · exact savings_updatePosition
      · split
        · rw [savings_send, savings_updatePosition]
        · rw [savings_wakeUpMonsters, savings_post, savings_send, savings_updatePosition]

/-- Entering a zone changes nothing that is owned. -/
theorem savings_handleEnterZone {playerId : ObjID} {x y : Int} :
    (world.handleEnterZone zone choice playerId x y).savings = world.savings := by
  unfold handleEnterZone
  split
  · rfl
  · dsimp only
    rw [savings_modifyTransform, savings_notifyPlayerEnteredWorld]
    split
    · next moved => exact savings_updateObjectSectorAndPosition moved
    · exact savings_updatePosition

/-! ## Monsters -/

theorem savings_replace {monsterId : ObjID} {oldList newList : List ObjID} :
    (world.replace choice monsterId oldList newList).savings = world.savings := by
  unfold replace
  split <;> rfl

theorem savings_moveMonsterStep {monsterId : ObjID} {subject : Subject} {next : Int × Int} :
    (world.moveMonsterStep zone choice monsterId subject next).savings = world.savings := by
  have turned : (world.modify monsterId (Subject.updateFacing (next.1 - subject.x))).savings =
      world.savings := savings_modify fun _ => rfl
  unfold moveMonsterStep aStarMove
  split
  · exact turned
  · rw [savings_modifyMonster, savings_replace, savings_updatePosition, turned]

theorem savings_handleRandomMove {monsterId : ObjID} :
    (world.handleRandomMove zone choice monsterId).savings = world.savings := by
  unfold handleRandomMove
  split
  · rfl
  · split
    · rfl
    · split
      · exact savings_scheduleAfter
      · split
        · rw [savings_scheduleAfter, randomMove]
          split
          · rfl
          · split
            · rfl
            · exact savings_moveMonsterStep
        · exact savings_modifyMonster

theorem savings_handleMonsterRespawn {monsterId : ObjID} :
    (world.handleMonsterRespawn zone choice monsterId).savings = world.savings := by
  unfold handleMonsterRespawn
  split
  · rfl
  · dsimp only
    split
    · rw [getRandomPosition, savings_updatePosition, savings_modifyMonster]
    · split
      · rw [savings_modifyMonster, getRandomPosition, savings_updatePosition, savings_modifyMonster]
      · rw [savings_sendAll, savings_modifyMonster, getRandomPosition, savings_updatePosition,
          savings_modifyMonster]

theorem savings_tryAdvanceTowardGoal {monsterId : ObjID} {goal : Int × Int} :
    (world.tryAdvanceTowardGoal zone choice monsterId goal).2.savings = world.savings := by
  unfold tryAdvanceTowardGoal
  split
  · rfl
  · dsimp only
    split
    · exact savings_modifyMonster
    · rw [savings_moveMonsterStep, savings_modifyMonster]

theorem savings_afterChase {monsterId targetId : ObjID} :
    (world.afterChase zone monsterId targetId).savings = world.savings := by
  unfold afterChase
  split
  · split
    · rw [savings_scheduleAfter, savings_modifyMonster]
    · exact savings_modifyMonster
  · rfl

theorem savings_handleAggroMove {monsterId targetId : ObjID} :
    (world.handleAggroMove zone choice monsterId targetId).savings = world.savings := by
  unfold handleAggroMove
  split
  · rfl
  · split
    · rfl
    · split
      · exact savings_modifyMonster
      · split
        · rfl
        · dsimp only
          split
          · rw [stopMonster, savings_modifyMonster, savings_modifyMonster]
          · unfold returnToSpawn
            dsimp only
            split
            · rw [savings_scheduleAfter, savings_tryAdvanceTowardGoal, savings_modifyMonster]
            · rw [stopMonster, savings_modifyMonster, savings_tryAdvanceTowardGoal,
                savings_modifyMonster]
          · rw [savings_scheduleAfter]
            split
            · rfl
            · exact savings_scheduleAfter
          · rw [savings_afterChase, savings_tryAdvanceTowardGoal]

theorem savings_handleAttackToPlayer {monsterId playerId : ObjID} :
    (world.handleAttackToPlayer zone choice monsterId playerId).savings = world.savings := by
  unfold handleAttackToPlayer
  split
  · dsimp only
    split
    · rw [savings_modifyMonster, savings_modifyMonster]
    · split
      · simp only [killPlayer, savings_scheduleAfter, savings_removeObject, savings_modifyMonster,
          savings_sendAll, savings_setStat]
      · unfold surviveAttack
        dsimp only
        split
        · simp only [savings_scheduleAfter, savings_sendAll, savings_setStat, savings_modifyMonster]
        · simp only [savings_modifyMonster, savings_sendAll, savings_setStat]
  · rfl

/-! ## Field items -/

theorem savings_removeFieldItem {itemId : ObjID} {subject : Subject} {item : Item}
    (found : world.getItem itemId = some (subject, item)) :
    (world.removeFieldItem zone choice itemId subject).savings = world.savings := by
  have taken : (((world.sendAll (world.viewers choice.hash zone subject)
      (.subjectRemoveNfy itemId)).removeObject zone itemId subject.transform).removeObjectZone
        itemId).savings = world.savings := by
    rw [savings_removeObjectZone, savings_removeObject, savings_sendAll]
  refine (savings_objects ?_).trans taken
  rw [getItem_eq_some] at found
  rw [belongings_of_savings taken, belongings, found.1, Option.bind_some, Subject.belongings,
    found.2]
  rfl

theorem savings_spawnFieldItem {item : Item} {x y : Int} {owner : ObjID}
    (spawned : world.spawnFieldItem zone choice item x y owner = some after) :
    after.savings = world.savings := by
  unfold spawnFieldItem at spawned
  dsimp only at spawned
  split at spawned
  · next fresh =>
    split at spawned
    · contradiction
    · have scheduled : ∀ current : World, ∀ id : ObjID,
          (current.scheduleItemTimers zone id owner).savings = current.savings := by
        intro current id
        unfold scheduleItemTimers
        dsimp only
        split <;> rfl
      rw [← Option.some.inj spawned, scheduled, savings_sendAll, savings_updatePosition]
      refine (savings_objects ?_).trans rfl
      rw [belongings, Option.isNone_iff_eq_none.mp fresh.2]
      rfl
  · contradiction

theorem savings_handleDespawn {itemId : ObjID} :
    (world.handleDespawn zone choice itemId).savings = world.savings := by
  unfold handleDespawn
  split
  · rfl
  · next found => exact savings_removeFieldItem found

/-! ## Attacks -/

theorem savings_handleItemDrop {monsterId attackerId : ObjID} {x y : Int}
    (dropped : world.handleItemDrop zone choice monsterId attackerId x y = some after) :
    after.savings = world.savings := by
  unfold handleItemDrop at dropped
  split at dropped
  · rw [Option.some.inj dropped]
  · split at dropped
    · contradiction
    · exact savings_spawnFieldItem dropped

theorem savings_attackMonster {monsterId playerId : ObjID} {damage : Nat}
    (hit : world.attackMonster zone choice monsterId playerId damage = some after) :
    after.savings = world.savings := by
  unfold attackMonster at hit
  split at hit
  · split at hit
    · rw [Option.some.inj hit]
    · dsimp only at hit
      split at hit
      · rw [← Option.some.inj hit, savings_send, savings_modifyMonster]
      · obtain ⟨dropped, rolled, rfl⟩ := Option.map_eq_some_iff.mp hit
        rw [savings_scheduleAfter, savings_handleItemDrop rolled]
        simp only [killMonster, savings_send, savings_setStat, savings_modifyMonster,
          savings_removeObject, savings_sendAll]
  · rw [Option.some.inj hit]

theorem savings_attackMonsters {playerId : ObjID} {damage : Nat} {targets : List ObjID}
    (hit : attackMonsters zone choice playerId damage targets world = some after) :
    after.savings = world.savings := by
  induction targets generalizing world with
  | nil => rw [Option.some.inj hit]
  | cons monsterId rest ih =>
      obtain ⟨middle, first, others⟩ := Option.bind_eq_some_iff.mp hit
      rw [ih others, savings_attackMonster first]

theorem savings_skillAttack {playerId : ObjID}
    (hit : world.skillAttack zone choice playerId = some after) :
    after.savings = world.savings := by
  unfold skillAttack at hit
  split at hit
  · rw [Option.some.inj hit]
  · split at hit
    · rw [Option.some.inj hit]
    · exact savings_attackMonsters hit

theorem savings_handleAttack {attackerId : ObjID} {facing : UInt8}
    (hit : world.handleAttack zone choice attackerId facing = some after) :
    after.savings = world.savings := by
  unfold handleAttack at hit
  split at hit
  · rw [Option.some.inj hit]
  · rw [savings_attackMonsters hit, savings_sendAll]

/-! ## Users -/

@[simp]
theorem savings_broadcastEquipChange {playerId : ObjID} :
    (world.broadcastEquipChange zone choice playerId).savings = world.savings := by
  unfold broadcastEquipChange
  split <;> rfl

theorem savings_broadcastChat {senderId : ObjID} {mess : String} :
    (world.broadcastChat zone choice senderId mess).savings = world.savings := by
  unfold broadcastChat
  split <;> rfl

theorem savings_handleHeal {thread : Nat} {playerId : ObjID} :
    (world.handleHeal thread playerId).savings = world.savings := by
  unfold handleHeal
  split
  · rfl
  · split
    · rfl
    · split
      · rfl
      · dsimp only
        rw [savings_scheduleAfter, savings_send, savings_setStat]

theorem savings_handleUserRespawn {playerId : ObjID} :
    (world.handleUserRespawn zone choice playerId).savings = world.savings := by
  unfold handleUserRespawn
  split
  · rfl
  · dsimp only
    split
    · rw [savings_setStat, getRandomPosition, savings_updatePosition]
    · rw [savings_scheduleAfter, savings_notifyPlayerEnteredWorld, savings_send, savings_setStat,
        getRandomPosition, savings_updatePosition]

@[simp]
theorem savings_finishLogin {withItems : Bool} :
    (world.finishLogin zone choice session withItems).savings = world.savings := by
  unfold finishLogin
  dsimp only
  split
  · rfl
  · rw [savings_notifyPlayerEnteredWorld, savings_scheduleAfter]
    split <;> rfl

end World

end Mmorpg
