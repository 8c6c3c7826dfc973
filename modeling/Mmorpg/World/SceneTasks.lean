import Mmorpg.World.Scene
import Mmorpg.World.Effect

/-!
# Tasks that leave the scene alone

Monsters that move, fight or come back, field items, attacks of users, healing
and chat change no user's place, weapon or life, and tell no client about a
weapon.
-/

namespace Mmorpg

open ZoneLayout

namespace World

variable {grid : CollisionGrid} {zone thread : Nat} {choice : Choice grid} {world after : World}

/-! ## Monsters -/

@[simp]
theorem scene_wakeUpMonster {monsterId wakerId : ObjID} {forceWake : Bool} :
    (world.wakeUpMonster zone monsterId wakerId forceWake).scene = world.scene := by
  unfold wakeUpMonster
  split
  · split
    · rfl
    · split
      · rfl
      · split
        · rfl
        · dsimp only
          split
          · rw [scene_scheduleAfter, scene_modifyMonster]
          · rw [scene_scheduleAfter, scene_modifyMonster]
  · rfl

@[simp]
theorem scene_wakeUpMonsters {ids : List ObjID} {wakerId : ObjID} {forceWake : Bool} :
    (world.wakeUpMonsters zone ids wakerId forceWake).scene = world.scene := by
  unfold wakeUpMonsters
  generalize ids.filter (fun id => id.category = .eMonster) = monsters
  induction monsters generalizing world with
  | nil => rfl
  | cons id rest ih => rw [List.foldl_cons, ih, scene_wakeUpMonster]

section

variable {monsterId : ObjID} (other : monsterId.category ≠ .eUser)

include other

theorem scene_replace {oldList newList : List ObjID} :
    (world.replace choice monsterId oldList newList).scene = world.scene := by
  unfold replace
  split
  · rfl
  · next monster _ =>
    apply scene_post
    intro entry member
    rcases List.mem_append.mp member with added | removed
    · obtain ⟨id, _, rfl⟩ := List.mem_map.mp added
      dsimp only
      split
      · exact unworn_of_bearer rfl
      · exact unworn_addPacket other choice.slots monster
    · obtain ⟨id, _, rfl⟩ := List.mem_map.mp removed
      rintro bearer ⟨⟩
      exact other

theorem scene_moveMonsterStep {subject : Subject} {next : Int × Int} :
    (world.moveMonsterStep zone choice monsterId subject next).scene = world.scene := by
  have turned : (world.modify monsterId (Subject.updateFacing (next.1 - subject.x))).scene =
      world.scene := scene_modify fun _ => rfl
  unfold moveMonsterStep aStarMove
  split
  · exact turned
  · rw [scene_modifyMonster, scene_replace other, scene_updatePosition other, turned]

theorem scene_handleRandomMove :
    (world.handleRandomMove zone choice monsterId).scene = world.scene := by
  unfold handleRandomMove
  split
  · rfl
  · split
    · rfl
    · split
      · exact scene_scheduleAfter
      · split
        · rw [scene_scheduleAfter, randomMove]
          split
          · rfl
          · split
            · rfl
            · exact scene_moveMonsterStep other
        · exact scene_modifyMonster

theorem scene_handleMonsterRespawn :
    (world.handleMonsterRespawn zone choice monsterId).scene = world.scene := by
  unfold handleMonsterRespawn
  split
  · rfl
  · dsimp only
    split
    · rw [getRandomPosition, scene_updatePosition other, scene_modifyMonster]
    · split
      · rw [scene_modifyMonster, getRandomPosition, scene_updatePosition other,
          scene_modifyMonster]
      · rw [scene_sendAll (unworn_respawnPacket other _), scene_modifyMonster, getRandomPosition,
          scene_updatePosition other, scene_modifyMonster]

theorem scene_tryAdvanceTowardGoal {goal : Int × Int} :
    (world.tryAdvanceTowardGoal zone choice monsterId goal).2.scene = world.scene := by
  unfold tryAdvanceTowardGoal
  split
  · rfl
  · dsimp only
    split
    · exact scene_modifyMonster
    · rw [scene_moveMonsterStep other, scene_modifyMonster]

theorem scene_returnToSpawn {targetId : ObjID} {spawn : Int × Int} :
    (world.returnToSpawn zone choice monsterId targetId spawn).scene = world.scene := by
  unfold returnToSpawn
  dsimp only
  split
  · rw [scene_scheduleAfter, scene_tryAdvanceTowardGoal other]
  · rw [stopMonster, scene_modifyMonster, scene_tryAdvanceTowardGoal other]

theorem scene_handleAggroMove {targetId : ObjID} :
    (world.handleAggroMove zone choice monsterId targetId).scene = world.scene := by
  have chased : ∀ current : World,
      (current.afterChase zone monsterId targetId).scene = current.scene := by
    intro current
    unfold afterChase
    split
    · split
      · rw [scene_scheduleAfter, scene_modifyMonster]
      · exact scene_modifyMonster
    · rfl
  unfold handleAggroMove
  split
  · rfl
  · split
    · rfl
    · split
      · exact scene_modifyMonster
      · split
        · rfl
        · dsimp only
          split
          · rw [stopMonster, scene_modifyMonster, scene_modifyMonster]
          · rw [scene_returnToSpawn other, scene_modifyMonster]
          · rw [scene_scheduleAfter]
            split
            · rfl
            · exact scene_scheduleAfter
          · rw [chased, scene_tryAdvanceTowardGoal other]

end

theorem scene_surviveAttack {monsterId playerId : ObjID} {subject victim : Subject} {hp : Nat} :
    (world.surviveAttack zone choice monsterId playerId subject victim hp).scene = world.scene := by
  have notified : (world.sendAll (world.viewers choice.hash zone victim)
      (.subjectAttackNfy playerId monsterId hp)).scene = world.scene :=
    scene_sendAll (unworn_of_bearer rfl)
  unfold surviveAttack
  dsimp only
  split
  · rw [scene_scheduleAfter, notified]
  · rw [scene_modifyMonster, notified]

/-! ## Field items -/

theorem scene_removeFieldItem {itemId : ObjID} (other : itemId.category ≠ .eUser)
    {subject : Subject} :
    (world.removeFieldItem zone choice itemId subject).scene = world.scene := by
  have unworn : Unworn (.subjectRemoveNfy itemId) := by
    rintro bearer ⟨⟩
    exact other
  refine (scene_update other).trans ?_
  rw [scene_removeObjectZone, scene_removeObject other, scene_sendAll unworn]

theorem scene_scheduleItemTimers {itemId owner : ObjID} :
    (world.scheduleItemTimers zone itemId owner).scene = world.scene := by
  unfold scheduleItemTimers
  dsimp only
  split
  · rw [scene_scheduleAfter, scene_scheduleAfter]
  · exact scene_scheduleAfter

theorem scene_spawnFieldItem {item : Item} {x y : Int} {owner : ObjID}
    (spawned : world.spawnFieldItem zone choice item x y owner = some after) :
    after.scene = world.scene := by
  have other : (ObjID.item world.nextFieldItemId).category ≠ .eUser := by
    rw [ObjID.item_category]
    decide
  unfold spawnFieldItem at spawned
  dsimp only at spawned
  split at spawned
  · split at spawned
    · contradiction
    · rw [← Option.some.inj spawned, scene_scheduleItemTimers,
        scene_sendAll (unworn_addPacket other _ _), scene_updatePosition other]
      exact (scene_update other).trans (scene_congr rfl rfl rfl rfl)
  · contradiction

/-! ## Attacks of users -/

theorem scene_killMonster {monsterId playerId : ObjID} (other : monsterId.category ≠ .eUser)
    {subject : Subject} {monster : Monster} {attacker : User} :
    (world.killMonster zone choice monsterId playerId subject monster attacker).scene =
      world.scene := by
  unfold killMonster
  dsimp only
  rw [scene_send (unworn_of_bearer rfl), scene_setStat, scene_modifyMonster,
    scene_removeObject other, scene_sendAll (unworn_of_bearer rfl)]
  exact fun stat => stat.addExp_dead _

theorem scene_handleItemDrop {monsterId attackerId : ObjID} {x y : Int}
    (dropped : world.handleItemDrop zone choice monsterId attackerId x y = some after) :
    after.scene = world.scene := by
  unfold handleItemDrop at dropped
  split at dropped
  · rw [Option.some.inj dropped]
  · split at dropped
    · contradiction
    · exact scene_spawnFieldItem dropped

theorem scene_attackMonster {monsterId playerId : ObjID} {damage : Nat}
    (other : monsterId.category ≠ .eUser)
    (hit : world.attackMonster zone choice monsterId playerId damage = some after) :
    after.scene = world.scene := by
  unfold attackMonster at hit
  split at hit
  · split at hit
    · rw [Option.some.inj hit]
    · dsimp only at hit
      split at hit
      · rw [← Option.some.inj hit, scene_send (unworn_of_bearer rfl), scene_modifyMonster]
      · obtain ⟨dropped, rolled, rfl⟩ := Option.map_eq_some_iff.mp hit
        rw [scene_scheduleAfter, scene_handleItemDrop rolled, scene_killMonster other,
          scene_modifyMonster]
  · rw [Option.some.inj hit]

theorem scene_attackMonsters {playerId : ObjID} {damage : Nat} {targets : List ObjID}
    (monsters : ∀ id ∈ targets, id.category = .eMonster)
    (hit : attackMonsters zone choice playerId damage targets world = some after) :
    after.scene = world.scene := by
  induction targets generalizing world with
  | nil => rw [Option.some.inj hit]
  | cons monsterId rest ih =>
      obtain ⟨middle, first, others⟩ := Option.bind_eq_some_iff.mp hit
      have other : monsterId.category ≠ .eUser := by
        rw [monsters monsterId List.mem_cons_self]
        decide
      rw [ih (fun id member => monsters id (List.mem_cons_of_mem monsterId member)) others,
        scene_attackMonster other first]

theorem scene_skillAttack {playerId : ObjID}
    (hit : world.skillAttack zone choice playerId = some after) : after.scene = world.scene := by
  unfold skillAttack at hit
  split at hit
  · rw [Option.some.inj hit]
  · split at hit
    · rw [Option.some.inj hit]
    · apply scene_attackMonsters _ hit
      intro id member
      obtain ⟨entry, among, rfl⟩ := List.mem_map.mp member
      exact (of_decide_eq_true (List.mem_filter.mp among).2).1

theorem scene_handleAttack {attackerId : ObjID} {facing : UInt8}
    (hit : world.handleAttack zone choice attackerId facing = some after) :
    after.scene = world.scene := by
  unfold handleAttack at hit
  split at hit
  · rw [Option.some.inj hit]
  · rw [scene_attackMonsters _ hit, scene_sendAll (unworn_of_bearer rfl)]
    intro id member
    obtain ⟨entry, among, rfl⟩ := List.mem_map.mp member
    exact (of_decide_eq_true (List.mem_filter.mp among).2).1

/-! ## Healing, saving and chat -/

theorem scene_handleHeal {playerId : ObjID} :
    (world.handleHeal thread playerId).scene = world.scene := by
  unfold handleHeal
  split
  · rfl
  · split
    · rfl
    · split
      · rfl
      · dsimp only
        rw [scene_scheduleAfter, scene_send (unworn_of_bearer rfl)]
        exact scene_setStat fun _ => rfl

theorem scene_saveUserInfo {id : ObjID} : (world.saveUserInfo choice id).scene = world.scene := by
  unfold saveUserInfo
  split
  · rfl
  · split
    · exact scene_requestDb
    · exact scene_requestDb

theorem scene_broadcastChat {senderId : ObjID} {mess : String} :
    (world.broadcastChat zone choice senderId mess).scene = world.scene := by
  unfold broadcastChat
  split
  · rfl
  · rw [scene_sendAll (unworn_of_bearer rfl), scene_send (unworn_of_bearer rfl)]

/-! ## Requests -/

theorem scene_attackRequest {session : Nat} {facing : UInt8}
    (ran : world.attackRequest thread choice session facing = some after) :
    after.scene = world.scene := by
  unfold attackRequest at ran
  split at ran
  · rw [Option.some.inj ran]
  · split at ran
    · dsimp only at ran
      rw [onSector_eq_some] at ran
      rw [scene_handleAttack ran.2, scene_modify, scene_modifyUser]
      · exact fun _ => rfl
      · exact fun _ => rfl
      · exact fun _ => rfl
    · rw [Option.some.inj ran]

theorem scene_skillRequest {session : Nat}
    (ran : world.skillRequest thread choice session = some after) : after.scene = world.scene := by
  unfold skillRequest at ran
  split at ran
  · rw [Option.some.inj ran]
  · split at ran
    · dsimp only at ran
      rw [onSector_eq_some] at ran
      rw [scene_skillAttack ran.2]
      exact scene_modifyUser (fun _ => rfl) fun _ => rfl
    · rw [Option.some.inj ran]

theorem scene_chatRequest {session : Nat} {mess : String}
    (ran : world.chatRequest thread choice session mess = some after) :
    after.scene = world.scene := by
  unfold chatRequest at ran
  split at ran
  · rw [Option.some.inj ran]
  · split at ran
    · rw [Option.some.inj ran]
    · rw [onSector_eq_some] at ran
      rw [← Option.some.inj ran.2, scene_broadcastChat]

theorem scene_loginRequest {session : Nat} {name password : String}
    (ran : world.loginRequest session name password = some after) : after.scene = world.scene := by
  unfold loginRequest at ran
  split at ran
  · rw [Option.some.inj ran]
  · rw [← Option.some.inj ran, scene_requestDb]

/-! ## The start -/

theorem scene_initMonster {draw : Nat → Int × Int} {index : Nat} :
    (world.initMonster zone draw index).scene = world.scene := by
  have other : (ObjID.monster (monsterIdStart + index)).category ≠ .eUser := by
    rw [ObjID.monster_category]
    decide
  unfold initMonster
  dsimp only
  rw [scene_modifyMonster, scene_updatePosition other]
  exact scene_update other

end World

end Mmorpg
