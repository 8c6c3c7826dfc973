import Mmorpg.World.Stock

/-!
# Tasks that leave the stock alone

Moving, fighting, field items and the end of a login tell nobody about an
inventory and change none.
-/

namespace Mmorpg

open ZoneLayout

namespace World

variable {grid : CollisionGrid} {zone session : Nat} {choice : Choice grid} {world after : World}

/-! ## Moving -/

theorem unlisted_movePacket (id : ObjID) (subject : Subject) : Unlisted (movePacket id subject) :=
  rfl

@[simp]
theorem stock_wakeUpMonster {monsterId wakerId : ObjID} {forceWake : Bool} :
    (world.wakeUpMonster zone monsterId wakerId forceWake).stock session = world.stock session := by
  unfold wakeUpMonster
  split
  · split
    · rfl
    · split
      · rfl
      · split
        · rfl
        · dsimp only
          split
          · rw [stock_scheduleAfter, stock_modifyMonster]
          · rw [stock_scheduleAfter, stock_modifyMonster]
  · rfl

@[simp]
theorem stock_wakeUpMonsters {ids : List ObjID} {wakerId : ObjID} {forceWake : Bool} :
    (world.wakeUpMonsters zone ids wakerId forceWake).stock session = world.stock session := by
  unfold wakeUpMonsters
  generalize ids.filter (fun id => id.category = .eMonster) = monsters
  induction monsters generalizing world with
  | nil => rfl
  | cons id rest ih => rw [List.foldl_cons, ih, stock_wakeUpMonster]

theorem unlisted_enteredPackets {playerId id : ObjID} {player : Subject} {isRespawn : Bool} :
    ∀ entry ∈ world.enteredPackets choice playerId player isRespawn id, Unlisted entry.2 := by
  intro entry member
  unfold enteredPackets at member
  split at member
  · exact absurd member List.not_mem_nil
  · dsimp only at member
    split at member
    · rw [List.mem_cons, List.mem_singleton] at member
      rcases member with rfl | rfl
      · dsimp only
        split
        · exact unlisted_respawnPacket _ _
        · exact unlisted_addPacket _ _ _
      · exact unlisted_addPacket _ _ _
    · exact List.mem_singleton.mp member ▸ unlisted_addPacket _ _ _
    · exact List.mem_singleton.mp member ▸ unlisted_addPacket _ _ _
    · exact absurd member List.not_mem_nil

@[simp]
theorem stock_notifyPlayerEnteredWorld {playerId : ObjID} {isRespawn : Bool} :
    (world.notifyPlayerEnteredWorld zone choice playerId isRespawn).stock session =
      world.stock session := by
  unfold notifyPlayerEnteredWorld
  split
  · rfl
  · rw [stock_wakeUpMonsters, stock_post]
    intro entry member
    obtain ⟨id, _, among⟩ := List.mem_flatMap.mp member
    exact unlisted_enteredPackets entry among

theorem unlisted_leftPackets {playerId id : ObjID} :
    ∀ entry ∈ world.leftPackets playerId id, Unlisted entry.2 := by
  intro entry member
  unfold leftPackets at member
  rcases List.mem_cons.mp member with rfl | member
  · rfl
  · split at member
    · exact List.mem_singleton.mp member ▸ rfl
    · exact absurd member List.not_mem_nil

theorem unlisted_seenPackets {playerId id : ObjID} {player : Subject} {oldVisible : List ObjID} :
    ∀ entry ∈ world.seenPackets choice playerId player oldVisible id, Unlisted entry.2 := by
  intro entry member
  unfold seenPackets at member
  split at member
  · exact absurd member List.not_mem_nil
  · rcases List.mem_append.mp member with shown | told
    · split at shown
      · exact List.mem_singleton.mp shown ▸ unlisted_addPacket _ _ _
      · exact absurd shown List.not_mem_nil
    · split at told
      · rw [List.mem_singleton] at told
        subst told
        dsimp only
        split
        · exact unlisted_addPacket _ _ _
        · rfl
      · exact absurd told List.not_mem_nil

@[simp]
theorem stock_handleZoneTransfer {playerId : ObjID} {player : Subject} {x y : Int}
    {newZoneId : Nat} :
    (world.handleZoneTransfer zone choice playerId player x y newZoneId).stock session =
      world.stock session := by
  simp only [handleZoneTransfer, stock_enqueueByZone, stock_setRoutingZoneId,
    stock_updateObjectZone, stock_modifyTransform]
  rw [stock_post]
  · simp only [stock_modifyTransform, stock_removeObject]
  · intro entry member
    rcases List.mem_cons.mp member with rfl | member
    · rfl
    · obtain ⟨id, _, among⟩ := List.mem_flatMap.mp member
      exact unlisted_leftPackets entry among

@[simp]
theorem stock_walk {playerId : ObjID} {player : Subject} {x y : Int} :
    (world.walk zone choice playerId player x y).stock session = world.stock session := by
  unfold walk
  dsimp only
  split
  · exact stock_updatePosition
  · split
    · rw [stock_send (unlisted_movePacket _ _), stock_updatePosition]
    · rw [stock_wakeUpMonsters, stock_post, stock_send (unlisted_movePacket _ _),
        stock_updatePosition]
      intro entry member
      rcases List.mem_append.mp member with seen | lost
      · obtain ⟨id, _, among⟩ := List.mem_flatMap.mp seen
        exact unlisted_seenPackets entry among
      · obtain ⟨id, _, among⟩ := List.mem_flatMap.mp lost
        exact unlisted_leftPackets entry among

@[simp]
theorem stock_handlePlayerMove {playerId : ObjID} {x y : Int} :
    (world.handlePlayerMove zone choice playerId x y).stock session = world.stock session := by
  unfold handlePlayerMove
  split
  · rfl
  · dsimp only
    split
    · exact stock_handleZoneTransfer
    · exact stock_walk

theorem stock_handleEnterZone {playerId : ObjID} {x y : Int} :
    (world.handleEnterZone zone choice playerId x y).stock session = world.stock session := by
  unfold handleEnterZone
  split
  · rfl
  · dsimp only
    rw [stock_modifyTransform, stock_notifyPlayerEnteredWorld]
    split
    · next moved => exact stock_updateObjectSectorAndPosition moved
    · exact stock_updatePosition

/-! ## Monsters -/

theorem stock_replace {monsterId : ObjID} {oldList newList : List ObjID} :
    (world.replace choice monsterId oldList newList).stock session = world.stock session := by
  unfold replace
  split
  · rfl
  · apply stock_post
    intro entry member
    rcases List.mem_append.mp member with added | removed
    · obtain ⟨id, _, rfl⟩ := List.mem_map.mp added
      dsimp only
      split
      · rfl
      · exact unlisted_addPacket _ _ _
    · obtain ⟨id, _, rfl⟩ := List.mem_map.mp removed
      rfl

theorem stock_moveMonsterStep {monsterId : ObjID} {subject : Subject} {next : Int × Int} :
    (world.moveMonsterStep zone choice monsterId subject next).stock session =
      world.stock session := by
  have turned : (world.modify monsterId (Subject.updateFacing (next.1 - subject.x))).stock session =
      world.stock session := stock_modify fun _ => rfl
  unfold moveMonsterStep aStarMove
  split
  · exact turned
  · rw [stock_modifyMonster, stock_replace, stock_updatePosition, turned]

theorem stock_handleRandomMove {monsterId : ObjID} :
    (world.handleRandomMove zone choice monsterId).stock session = world.stock session := by
  unfold handleRandomMove
  split
  · rfl
  · split
    · rfl
    · split
      · exact stock_scheduleAfter
      · split
        · rw [stock_scheduleAfter, randomMove]
          split
          · rfl
          · split
            · rfl
            · exact stock_moveMonsterStep
        · exact stock_modifyMonster

theorem stock_handleMonsterRespawn {monsterId : ObjID} :
    (world.handleMonsterRespawn zone choice monsterId).stock session = world.stock session := by
  unfold handleMonsterRespawn
  split
  · rfl
  · dsimp only
    split
    · rw [getRandomPosition, stock_updatePosition, stock_modifyMonster]
    · split
      · rw [stock_modifyMonster, getRandomPosition, stock_updatePosition, stock_modifyMonster]
      · rw [stock_sendAll (unlisted_respawnPacket _ _), stock_modifyMonster, getRandomPosition,
          stock_updatePosition, stock_modifyMonster]

theorem stock_tryAdvanceTowardGoal {monsterId : ObjID} {goal : Int × Int} :
    (world.tryAdvanceTowardGoal zone choice monsterId goal).2.stock session =
      world.stock session := by
  unfold tryAdvanceTowardGoal
  split
  · rfl
  · dsimp only
    split
    · exact stock_modifyMonster
    · rw [stock_moveMonsterStep, stock_modifyMonster]

theorem stock_returnToSpawn {monsterId targetId : ObjID} {spawn : Int × Int} :
    (world.returnToSpawn zone choice monsterId targetId spawn).stock session =
      world.stock session := by
  unfold returnToSpawn
  dsimp only
  split
  · rw [stock_scheduleAfter, stock_tryAdvanceTowardGoal]
  · rw [stopMonster, stock_modifyMonster, stock_tryAdvanceTowardGoal]

theorem stock_afterChase {monsterId targetId : ObjID} :
    (world.afterChase zone monsterId targetId).stock session = world.stock session := by
  unfold afterChase
  split
  · split
    · rw [stock_scheduleAfter, stock_modifyMonster]
    · exact stock_modifyMonster
  · rfl

theorem stock_handleAggroMove {monsterId targetId : ObjID} :
    (world.handleAggroMove zone choice monsterId targetId).stock session = world.stock session := by
  unfold handleAggroMove
  split
  · rfl
  · split
    · rfl
    · split
      · exact stock_modifyMonster
      · split
        · rfl
        · dsimp only
          split
          · rw [stopMonster, stock_modifyMonster, stock_modifyMonster]
          · rw [stock_returnToSpawn, stock_modifyMonster]
          · rw [stock_scheduleAfter]
            split
            · rfl
            · exact stock_scheduleAfter
          · rw [stock_afterChase, stock_tryAdvanceTowardGoal]

theorem stock_killPlayer {monsterId playerId : ObjID} {victim : Subject} {hp : Nat} :
    (world.killPlayer zone choice monsterId playerId victim hp).stock session =
      world.stock session := by
  have notified : (world.sendAll (world.viewers choice.hash zone victim)
      (.subjectDieNfy playerId hp)).stock session = world.stock session := stock_sendAll rfl
  simp only [killPlayer, stock_scheduleAfter, stock_removeObject, stock_modifyMonster, notified]

theorem stock_surviveAttack {monsterId playerId : ObjID} {subject victim : Subject} {hp : Nat} :
    (world.surviveAttack zone choice monsterId playerId subject victim hp).stock session =
      world.stock session := by
  have notified : (world.sendAll (world.viewers choice.hash zone victim)
      (.subjectAttackNfy playerId monsterId hp)).stock session = world.stock session :=
    stock_sendAll rfl
  unfold surviveAttack
  dsimp only
  split
  · rw [stock_scheduleAfter, notified]
  · rw [stock_modifyMonster, notified]

theorem stock_handleAttackToPlayer {monsterId playerId : ObjID} :
    (world.handleAttackToPlayer zone choice monsterId playerId).stock session =
      world.stock session := by
  unfold handleAttackToPlayer
  split
  · dsimp only
    split
    · rw [stock_modifyMonster, stock_modifyMonster]
    · split
      · rw [stock_killPlayer, stock_setStat, stock_modifyMonster]
      · rw [stock_surviveAttack, stock_setStat, stock_modifyMonster]
  · rfl

/-! ## Field items -/

theorem stock_removeFieldItem {itemId : ObjID} {subject : Subject} {item : Item}
    (found : world.getItem itemId = some (subject, item)) :
    (world.removeFieldItem zone choice itemId subject).stock session = world.stock session := by
  rw [getItem_eq_some] at found
  have taken : (((world.sendAll (world.viewers choice.hash zone subject)
      (.subjectRemoveNfy itemId)).removeObject zone itemId subject.transform).removeObjectZone
        itemId).stock session = world.stock session := by
    rw [stock_removeObjectZone, stock_removeObject, stock_sendAll]
    exact rfl
  refine (stock_update rfl ?_).trans taken
  rintro rfl
  rw [taken, stock, found.1, Option.bind_some, Subject.slots, found.2]

theorem stock_scheduleItemTimers {itemId owner : ObjID} :
    (world.scheduleItemTimers zone itemId owner).stock session = world.stock session := by
  unfold scheduleItemTimers
  dsimp only
  split
  · rw [stock_scheduleAfter, stock_scheduleAfter]
  · exact stock_scheduleAfter

theorem stock_spawnFieldItem {item : Item} {x y : Int} {owner : ObjID}
    (spawned : world.spawnFieldItem zone choice item x y owner = some after) :
    after.stock session = world.stock session := by
  unfold spawnFieldItem at spawned
  dsimp only at spawned
  split at spawned
  · split at spawned
    · contradiction
    · rw [← Option.some.inj spawned, stock_scheduleItemTimers,
        stock_sendAll (unlisted_addPacket _ _ _), stock_updatePosition]
      refine (stock_update rfl ?_).trans (stock_congr rfl rfl rfl)
      exact fun here => EnumCategory.noConfusion (congrArg ObjID.category here)
  · contradiction

theorem stock_handleDespawn {itemId : ObjID} :
    (world.handleDespawn zone choice itemId).stock session = world.stock session := by
  unfold handleDespawn
  split
  · rfl
  · next found => exact stock_removeFieldItem found

/-! ## Attacks -/

theorem stock_killMonster {monsterId playerId : ObjID} {subject : Subject} {monster : Monster}
    {attacker : User} :
    (world.killMonster zone choice monsterId playerId subject monster attacker).stock session =
      world.stock session := by
  unfold killMonster
  dsimp only
  rw [stock_send, stock_setStat, stock_modifyMonster, stock_removeObject, stock_sendAll]
  · exact rfl
  · exact rfl

theorem stock_handleItemDrop {monsterId attackerId : ObjID} {x y : Int}
    (dropped : world.handleItemDrop zone choice monsterId attackerId x y = some after) :
    after.stock session = world.stock session := by
  unfold handleItemDrop at dropped
  split at dropped
  · rw [Option.some.inj dropped]
  · split at dropped
    · contradiction
    · exact stock_spawnFieldItem dropped

theorem stock_attackMonster {monsterId playerId : ObjID} {damage : Nat}
    (hit : world.attackMonster zone choice monsterId playerId damage = some after) :
    after.stock session = world.stock session := by
  unfold attackMonster at hit
  split at hit
  · split at hit
    · rw [Option.some.inj hit]
    · dsimp only at hit
      split at hit
      · rw [← Option.some.inj hit, stock_send, stock_modifyMonster]
        exact rfl
      · obtain ⟨dropped, rolled, rfl⟩ := Option.map_eq_some_iff.mp hit
        rw [stock_scheduleAfter, stock_handleItemDrop rolled, stock_killMonster,
          stock_modifyMonster]
  · rw [Option.some.inj hit]

theorem stock_attackMonsters {playerId : ObjID} {damage : Nat} {targets : List ObjID}
    (hit : attackMonsters zone choice playerId damage targets world = some after) :
    after.stock session = world.stock session := by
  induction targets generalizing world with
  | nil => rw [Option.some.inj hit]
  | cons monsterId rest ih =>
      obtain ⟨middle, first, others⟩ := Option.bind_eq_some_iff.mp hit
      rw [ih others, stock_attackMonster first]

theorem stock_skillAttack {playerId : ObjID}
    (hit : world.skillAttack zone choice playerId = some after) :
    after.stock session = world.stock session := by
  unfold skillAttack at hit
  split at hit
  · rw [Option.some.inj hit]
  · split at hit
    · rw [Option.some.inj hit]
    · exact stock_attackMonsters hit

theorem stock_handleAttack {attackerId : ObjID} {facing : UInt8}
    (hit : world.handleAttack zone choice attackerId facing = some after) :
    after.stock session = world.stock session := by
  unfold handleAttack at hit
  split at hit
  · rw [Option.some.inj hit]
  · rw [stock_attackMonsters hit, stock_sendAll]
    exact rfl

/-! ## Users -/

@[simp]
theorem stock_broadcastEquipChange {playerId : ObjID} :
    (world.broadcastEquipChange zone choice playerId).stock session = world.stock session := by
  unfold broadcastEquipChange
  split
  · rfl
  · exact stock_sendAll rfl

theorem stock_broadcastChat {senderId : ObjID} {mess : String} :
    (world.broadcastChat zone choice senderId mess).stock session = world.stock session := by
  unfold broadcastChat
  split
  · rfl
  · rw [stock_sendAll, stock_send]
    · exact rfl
    · exact rfl

theorem stock_handleHeal {thread : Nat} {playerId : ObjID} :
    (world.handleHeal thread playerId).stock session = world.stock session := by
  unfold handleHeal
  split
  · rfl
  · split
    · rfl
    · split
      · rfl
      · dsimp only
        rw [stock_scheduleAfter, stock_send, stock_setStat]
        exact rfl

theorem stock_handleUserRespawn {playerId : ObjID} :
    (world.handleUserRespawn zone choice playerId).stock session = world.stock session := by
  unfold handleUserRespawn
  split
  · rfl
  · dsimp only
    split
    · rw [stock_setStat, getRandomPosition, stock_updatePosition]
    · rw [stock_scheduleAfter, stock_notifyPlayerEnteredWorld,
        stock_send (unlisted_respawnPacket _ _), stock_setStat, getRandomPosition,
        stock_updatePosition]

theorem stock_saveUserInfo {id : ObjID} :
    (world.saveUserInfo choice id).stock session = world.stock session := by
  unfold saveUserInfo
  split
  · rfl
  · split
    · exact stock_requestDb
    · exact stock_requestDb

end World

end Mmorpg
