import Mmorpg.World.AsideTasks

/-!
# What a task can do

The inversion of `exec`: a task either leaves the users aside or does one of
eight things to one user, each with the guards it has passed.
-/

namespace Mmorpg

open ZoneLayout

variable {grid : CollisionGrid}

/-- The two requests that end in `HandlePlayerMove`. -/
def ClientPacket.isMove : ClientPacket → Bool
  | userMoveReq _ => true
  | userTeleportReq .. => true
  | _ => false

namespace World

/-- The world in which `HandleAttackToPlayer` has dealt its damage. -/
def struck (monsterId playerId : ObjID) (world : World) : World :=
  (world.modifyMonster monsterId fun current => { current with attack := true }).setStat playerId
    fun current => current.takeDamage monsterOffensive

/-- What a task does to the sessions and zones: nothing, a move, a departure or
an arrival. -/
inductive Effect (thread : Nat) (choice : Choice grid) (world : World) : Task → World → Prop
  | aside {task : Task} {after : World} : Aside world after → Effect thread choice world task after
  | move {session : Nat} {packet : ClientPacket} {client : Subject} {user : User}
      {stamped : World} (x y : Int) :
      packet.isMove = true → world.playing session true = some (client, user) →
      isValidZoneId thread = true → Quiet Silent thread (ObjID.user session) world stamped →
      Effect thread choice world (.dispatch session packet)
        (stamped.handlePlayerMove thread choice (ObjID.user session) x y)
  | leave {clientId : ObjID} {client : Subject} {user : User} :
      world.getUser clientId = some (client, user) →
      ¬(client.transform.transferring = true ∧ isValidZoneId client.transform.zoneId = true) →
      isValidZoneId thread = true →
      Effect thread choice world (.disconnect clientId)
        (world.leaveWorld thread choice clientId client)
  | retry {clientId : ObjID} {client : Subject} {user : User} :
      world.getUser clientId = some (client, user) → client.transform.transferring = true →
      isValidZoneId client.transform.zoneId = true →
      Effect thread choice world (.disconnect clientId)
        (world.enqueueByZone client.transform.zoneId (.disconnect clientId))
  | enter {playerId : ObjID} {player : Subject} {user : User} (nextX nextY : Int) :
      world.getUser playerId = some (player, user) → isValidZoneId thread = true →
      Effect thread choice world (.enterZone playerId nextX nextY)
        (world.handleEnterZone thread choice playerId nextX nextY)
  | getUserInfo {session : Nat} {userInfo : DbUserInfo} {items : List DbItemInfo} :
      world.sessionState session = .stAlloc → world.objects (ObjID.user session) = none →
      isValidZoneId thread = true →
      Effect thread choice world (.getUserInfo session userInfo items)
        (((world.publishUser session (loadedUser choice.slots (ObjID.user session) userInfo items))
          |>.placeLoadedUser thread choice session userInfo).finishLogin thread choice session true)
  | addUserInfo {session : Nat} {userInfo : DbUserInfo} :
      world.sessionState session = .stAlloc → world.objects (ObjID.user session) = none →
      isValidZoneId thread = true →
      Effect thread choice world (.addUserInfo session userInfo)
        (((world.publishUser session (newUser (ObjID.user session) userInfo)).getRandomPosition
          thread choice (ObjID.user session)).finishLogin thread choice session false)
  | kill {monsterId playerId : ObjID} {subject victim : Subject} {monster : Monster} {user : User} :
      world.getMonster monsterId = some (subject, monster) →
      world.getUser playerId = some (victim, user) →
      world.attackMisses subject monster playerId victim = false →
      (user.stat.takeDamage monsterOffensive).dead = true → isValidZoneId thread = true →
      Effect thread choice world (.timer .evMonsterAttackToUser monsterId playerId)
        ((world.struck monsterId playerId).killPlayer thread choice monsterId playerId victim
          (user.stat.takeDamage monsterOffensive).hp)
  | respawn {playerId targetId : ObjID} {player : Subject} {user : User} :
      world.getUser playerId = some (player, user) → isValidZoneId thread = true →
      Effect thread choice world (.timer .evUserRespawn playerId targetId)
        (world.handleUserRespawn thread choice playerId)

variable {thread : Nat} {choice : Choice grid} {world after : World}

theorem moveRequest_effect {session : Nat} {direction : Int}
    (ran : world.moveRequest thread choice session direction = some after) :
    Effect thread choice world (.dispatch session (.userMoveReq direction)) after := by
  unfold moveRequest at ran
  split at ran
  · exact Option.some.inj ran ▸ .aside (Aside.refl world)
  · next client user allowed =>
    split at ran
    · exact Option.some.inj ran ▸ .aside (Aside.refl world)
    · split at ran
      · dsimp only at ran
        rw [onSector_eq_some] at ran
        rw [← Option.some.inj ran.2]
        apply Effect.move _ _ rfl allowed ran.1
        apply Quiet.modifyFacing
        · intro subject
          unfold faceDirection
          split
          · rfl
          · split <;> rfl
        · intro subject
          unfold faceDirection
          split
          · rfl
          · split <;> rfl
        · intro subject
          unfold faceDirection
          split
          · rfl
          · split <;> rfl
        · exact Quiet.modifyUser (fun _ => rfl) (fun _ => rfl) (fun _ => rfl) (Quiet.refl world)
      · exact Option.some.inj ran ▸ .aside (Aside.refl world)

theorem teleportRequest_effect {session : Nat} {x y : Int}
    (ran : world.teleportRequest thread choice session x y = some after) :
    Effect thread choice world (.dispatch session (.userTeleportReq x y)) after := by
  unfold teleportRequest at ran
  split at ran
  · exact Option.some.inj ran ▸ .aside (Aside.refl world)
  · next client user allowed =>
    split at ran
    · exact Option.some.inj ran ▸ .aside (Aside.refl world)
    · rw [onSector_eq_some] at ran
      exact Option.some.inj ran.2 ▸ .move x y rfl allowed ran.1 (Quiet.refl world)

theorem dispatch_effect {session : Nat} {packet : ClientPacket}
    (ran : world.dispatch thread choice session packet = some after) :
    Effect thread choice world (.dispatch session packet) after := by
  cases packet with
  | userLoginReq name password => exact .aside (loginRequest_aside ran)
  | userMoveReq direction => exact moveRequest_effect ran
  | userAttackReq facing => exact .aside (attackRequest_aside ran)
  | userSkillReq => exact .aside (skillRequest_aside ran)
  | userTeleportReq x y => exact teleportRequest_effect ran
  | itemEquipReq index => exact .aside (equipRequest_aside ran)
  | itemUnequipReq index => exact .aside (unequipRequest_aside ran)
  | itemSwapReq indexA indexB => exact .aside (swapRequest_aside ran)
  | itemDiscardReq index count => exact .aside (discardRequest_aside ran)
  | itemPickupReq => exact .aside (pickupRequest_aside ran)
  | itemUseReq index => exact .aside (useRequest_aside ran)
  | csChat mess => exact .aside (chatRequest_aside ran)

theorem disconnect_effect {clientId : ObjID}
    (ran : world.disconnect thread choice clientId = some after) :
    Effect thread choice world (.disconnect clientId) after := by
  unfold disconnect at ran
  split at ran
  · exact Option.some.inj ran ▸ .aside (Aside.refl world)
  · next found =>
    split at ran
    · next away => exact Option.some.inj ran ▸ .retry found away.1 away.2
    · next here =>
      rw [onSector_eq_some] at ran
      exact Option.some.inj ran.2 ▸ .leave found here ran.1

theorem surviveAttack_aside {zone : Nat} {monsterId playerId : ObjID} {subject victim : Subject}
    {hp : Nat} :
    Aside world (world.surviveAttack zone choice monsterId playerId subject victim hp) := by
  apply Quiet.aside
  show Quiet Silent zone monsterId _ _
  exact surviveAttack_quiet (Quiet.refl world)

/-- Damage that is not fatal leaves a living user alive. -/
theorem struck_aside {monsterId playerId : ObjID} {victim : Subject} {user : User}
    (found : world.getUser playerId = some (victim, user)) (alive : user.stat.dead = false)
    (survives : (user.stat.takeDamage monsterOffensive).dead = false) :
    Aside world (world.struck monsterId playerId) := by
  have attacking : Aside world (world.modifyMonster monsterId fun current =>
      { current with attack := true }) := Aside.modifyMonster (Aside.refl world)
  rw [getUser_eq_some] at found
  apply attacking.modify
  · intro subject same
    have old : subject = victim := by
      simp only [modifyMonster, modify, Function.update_apply] at same
      split at same
      · next here =>
        rw [← here, found.1, Option.map_some, Option.some.injEq] at same
        rw [← same, found.2]
      · exact Option.some.inj (same.symm.trans found.1)
    subst old
    simp only [found.2, Subject.standing, Standing.person, Subject.holding, Subject.isDead,
      User.setStat, User.stat]
    rw [User.stat] at alive survives
    rw [alive, survives]
  · rintro ⟨name, transform, facing, body⟩
    cases body <;> rfl

theorem handleAttackToPlayer_effect {monsterId playerId : ObjID}
    (valid : isValidZoneId thread = true) :
    Effect thread choice world (.timer .evMonsterAttackToUser monsterId playerId)
      (world.handleAttackToPlayer thread choice monsterId playerId) := by
  unfold handleAttackToPlayer
  split
  · next subject monster victim user isMonster isUser =>
    dsimp only
    split
    · apply Effect.aside
      exact Aside.modifyMonster (Aside.modifyMonster (Aside.refl world))
    · next hits =>
      rw [Bool.not_eq_true] at hits
      split
      · next fatal => exact .kill isMonster isUser hits fatal valid
      · next survives =>
        have alive : user.stat.dead = false := by
          simp only [attackMisses, Subject.isDead, (getUser_eq_some.mp isUser).2,
            decide_eq_false_iff_not, not_or, Bool.not_eq_true] at hits
          exact hits.2.1
        apply Effect.aside
        rw [Bool.not_eq_true] at survives
        exact (struck_aside isUser alive survives).trans surviveAttack_aside
  · exact .aside (Aside.refl world)

/-- A guarded handler does nothing, or the object is registered and the thread
has a grid. -/
theorem ifRegistered_eq_some {α : Type} {found : Option α} {body : Nat → World} :
    world.ifRegistered found thread body = some after ↔
      (found = none ∧ after = world) ∨
        (∃ value, found = some value) ∧ isValidZoneId thread = true ∧ after = body thread := by
  cases found with
  | none => grind [ifRegistered]
  | some value => grind [ifRegistered, onSector_eq_some]

theorem timerTask_effect (filed : Filed world) {event : TimerEventType} {subjectId targetId : ObjID}
    (ran : world.timerTask thread choice event subjectId targetId = some after) :
    Effect thread choice world (.timer event subjectId targetId) after := by
  cases event with
  | evHeal =>
    rw [← Option.some.inj ran]
    exact .aside (handleHeal_quiet subjectId world).aside
  | evItemLootPriorityExpire =>
    rw [← Option.some.inj ran]
    exact .aside (handleLootPriorityExpire_aside subjectId)
  | evUserRespawn =>
    rcases ifRegistered_eq_some.mp ran with ⟨_, rfl⟩ | ⟨⟨⟨player, user⟩, found⟩, valid, rfl⟩
    · exact .aside (Aside.refl after)
    · exact .respawn found valid
  | evMonsterAttackToUser =>
    rcases ifRegistered_eq_some.mp ran with ⟨_, rfl⟩ | ⟨_, valid, rfl⟩
    · exact .aside (Aside.refl after)
    · exact handleAttackToPlayer_effect valid
  | evRandomMove =>
    rcases ifRegistered_eq_some.mp ran with ⟨_, rfl⟩ | ⟨_, _, rfl⟩
    · exact .aside (Aside.refl after)
    · exact .aside (handleRandomMove_aside filed subjectId)
  | evMonsterRespawn =>
    rcases ifRegistered_eq_some.mp ran with ⟨_, rfl⟩ | ⟨_, _, rfl⟩
    · exact .aside (Aside.refl after)
    · exact .aside (handleMonsterRespawn_aside filed subjectId)
  | evAggroMove =>
    rcases ifRegistered_eq_some.mp ran with ⟨_, rfl⟩ | ⟨_, _, rfl⟩
    · exact .aside (Aside.refl after)
    · exact .aside (handleAggroMove_aside filed subjectId targetId)
  | evItemDespawn =>
    rcases ifRegistered_eq_some.mp ran with ⟨_, rfl⟩ | ⟨_, _, rfl⟩
    · exact .aside (Aside.refl after)
    · exact .aside (handleDespawn_aside filed subjectId)

theorem exec_effect (filed : Filed world) {task : Task}
    (ran : world.exec thread choice task = some after) : Effect thread choice world task after := by
  cases task with
  | dispatch session packet => exact dispatch_effect ran
  | closeSession session => exact Option.some.inj ran ▸ .aside (Aside.refl world)
  | disconnect clientId => exact disconnect_effect ran
  | enterZone playerId nextX nextY =>
    rcases ifRegistered_eq_some.mp ran with ⟨_, rfl⟩ | ⟨⟨⟨player, user⟩, found⟩, valid, rfl⟩
    · exact .aside (Aside.refl after)
    · exact .enter nextX nextY found valid
  | getUserInfo session userInfo items =>
    rw [exec] at ran
    split at ran
    · exact Option.some.inj ran ▸ .aside (Aside.refl world)
    · next alloc =>
      rw [onSector_eq_some] at ran
      rw [← Option.some.inj ran.2, handleGetUserInfo]
      rw [if_neg alloc]
      split
      · exact .aside (Aside.refl world)
      · next free => exact .getUserInfo (not_not.mp alloc) (by simpa using free) ran.1
  | addUserInfo session userInfo =>
    rw [exec] at ran
    split at ran
    · exact Option.some.inj ran ▸ .aside (Aside.refl world)
    · next alloc =>
      rw [onSector_eq_some] at ran
      rw [← Option.some.inj ran.2, handleAddUserInfo]
      rw [if_neg alloc]
      split
      · exact .aside (Aside.refl world)
      · next free => exact .addUserInfo (not_not.mp alloc) (by simpa using free) ran.1
  | timer event subjectId targetId => exact timerTask_effect filed ran

end World

end Mmorpg
