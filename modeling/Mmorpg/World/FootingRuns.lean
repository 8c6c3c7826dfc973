import Mmorpg.World.Footing
import Mmorpg.World.LoginFailure
import Mmorpg.World.Homed

/-!
# Nobody stands on an obstacle

The handlers of monsters and every task tread on clear tiles, apart from two:
a teleport looks only at the borders of the world, and a login that replaces an
unusable stored position draws it from the whole world, though only the running
zone can take it.
-/

namespace Mmorpg

open ZoneLayout Transition

variable {grid : CollisionGrid}

/-- What a queued task may rely on: an entry leads to a clear tile, and a login
with a usable position waits in the queue of its zone. -/
def Task.Settled (grid : CollisionGrid) (thread : Nat) : Task → Prop
  | enterZone _ x y => Clear grid (x, y)
  | getUserInfo _ userInfo _ => Clear grid (userInfo.x, userInfo.y) →
      getZoneIdByWorld userInfo.x userInfo.y = thread
  | _ => True

theorem Task.Sound.settled {task : Task} (sound : task.Sound grid) (thread : Nat) :
    task.Settled grid thread := by
  cases task with
  | enterZone playerId x y => exact sound
  | getUserInfo session userInfo items => exact sound.elim
  | _ => trivial

namespace World

variable {zone thread : Nat} {choice : Choice grid} {id own : ObjID} {before world after : World}

/-- Users and monsters stand on clear tiles. -/
def Footed (grid : CollisionGrid) (world : World) : Prop :=
  ∀ id tile, world.tileOf id = some tile → Clear grid tile

/-- Whoever stood on a free tile stands on one. -/
theorem Treads.footed (treads : Treads grid before after) (footed : Footed grid before) :
    Footed grid after := by
  intro id tile found
  rcases treads.tiles id tile found with clear | stays
  · exact clear
  · exact footed id tile stays

theorem tileOf_of_getUser {client : Subject} {user : User}
    (found : world.getUser id = some (client, user)) :
    world.tileOf id = some (client.x, client.y) := by
  rw [getUser_eq_some] at found
  rw [tileOf, found.1, Option.bind_some, Subject.tile, found.2]

theorem tileOf_of_getMonster {subject : Subject} {monster : Monster}
    (found : world.getMonster id = some (subject, monster)) :
    world.tileOf id = some (subject.x, subject.y) := by
  rw [getMonster_eq_some] at found
  rw [tileOf, found.1, Option.bind_some, Subject.tile, found.2]

/-! ## Monsters -/

namespace Treads

theorem aStarMove {monsterId : ObjID} {x y : Int} (treads : Treads grid before after)
    (clear : Clear grid (x, y)) :
    Treads grid before (after.aStarMove zone choice monsterId x y) := by
  unfold World.aStarMove
  split
  · exact treads
  · dsimp only
    apply modifyMonster
    unfold replace
    split
    · exact treads.updatePosition clear
    · exact (treads.updatePosition clear).post

theorem moveMonsterStep {monsterId : ObjID} {subject : Subject} {next : Int × Int}
    (treads : Treads grid before after) (clear : Clear grid next) :
    Treads grid before (after.moveMonsterStep zone choice monsterId subject next) :=
  aStarMove (treads.modifyBody fun _ => rfl) clear

theorem randomMove {monsterId : ObjID} (footed : Footed grid world) :
    Treads grid world (world.randomMove zone choice monsterId) := by
  unfold World.randomMove
  split
  · exact refl world
  · next subject monster found =>
    split
    · exact refl world
    · next next chosen =>
      apply (refl world).moveMonsterStep
      unfold randomTarget at chosen
      dsimp only at chosen
      split at chosen
      · contradiction
      · rw [← Option.some.inj chosen]
        apply SubjectHelper.movePositionByDirection_clear
        exact footed monsterId _ (tileOf_of_getMonster found)

theorem handleRandomMove {monsterId : ObjID} (footed : Footed grid world) :
    Treads grid world (world.handleRandomMove zone choice monsterId) := by
  unfold World.handleRandomMove
  split
  · exact refl world
  · split
    · exact refl world
    · split
      · exact (refl world).scheduleAfter
      · split
        · exact (randomMove footed).scheduleAfter
        · exact (refl world).modifyMonster

theorem handleMonsterRespawn {monsterId : ObjID} (valid : isValidZoneId zone = true) :
    Treads grid world (world.handleMonsterRespawn zone choice monsterId) := by
  unfold World.handleMonsterRespawn
  split
  · exact refl world
  · dsimp only
    split
    · exact (refl world).modifyMonster.getRandomPosition valid
    · split
      · exact ((refl world).modifyMonster.getRandomPosition valid).modifyMonster
      · exact ((refl world).modifyMonster.getRandomPosition valid).modifyMonster.post

/-- A step towards a goal ends on a free tile. -/
theorem tryAdvanceTowardGoal {monsterId : ObjID} {goal : Int × Int}
    (treads : Treads grid before after) (footed : Footed grid before) :
    Treads grid before (after.tryAdvanceTowardGoal zone choice monsterId goal).2 := by
  unfold World.tryAdvanceTowardGoal
  split
  · exact treads
  · next subject monster found =>
    dsimp only
    split
    · exact treads.modifyMonster
    · next next chosen =>
      apply treads.modifyMonster.moveMonsterStep
      apply MonsterHelper.stepTowardGoal_clear _ chosen
      exact treads.footed footed monsterId _ (tileOf_of_getMonster found)

theorem afterChase {monsterId targetId : ObjID} (treads : Treads grid before after) :
    Treads grid before (after.afterChase zone monsterId targetId) := by
  unfold World.afterChase
  split
  · split
    · exact treads.modifyMonster.scheduleAfter
    · exact treads.modifyMonster
  · exact treads

theorem returnToSpawn {monsterId targetId : ObjID} {spawn : Int × Int}
    (treads : Treads grid before after) (footed : Footed grid before) :
    Treads grid before (after.returnToSpawn zone choice monsterId targetId spawn) := by
  unfold World.returnToSpawn
  dsimp only
  split
  · exact (treads.tryAdvanceTowardGoal footed).scheduleAfter
  · exact (treads.tryAdvanceTowardGoal footed).modifyMonster

theorem handleAggroMove {monsterId targetId : ObjID} (footed : Footed grid world) :
    Treads grid world (world.handleAggroMove zone choice monsterId targetId) := by
  unfold World.handleAggroMove
  split
  · exact refl world
  · split
    · exact refl world
    · split
      · exact (refl world).modifyMonster
      · split
        · exact refl world
        · dsimp only
          split
          · exact (refl world).modifyMonster.modifyMonster
          · exact (refl world).modifyMonster.returnToSpawn footed
          · split
            · exact (refl world).scheduleAfter
            · exact (refl world).scheduleAfter.scheduleAfter
          · exact ((refl world).tryAdvanceTowardGoal footed).afterChase

theorem handleAttackToPlayer {monsterId playerId : ObjID} :
    Treads grid world (world.handleAttackToPlayer zone choice monsterId playerId) := by
  unfold World.handleAttackToPlayer
  split
  · dsimp only
    have hit : Treads grid world ((world.modifyMonster monsterId fun current =>
        { current with attack := true }).setStat playerId fun current =>
          current.takeDamage monsterOffensive) := (refl world).modifyMonster.modifyUser
    split
    · exact (refl world).modifyMonster.modifyMonster
    · split
      · unfold killPlayer
        exact hit.post.modifyMonster.removeObject.scheduleAfter
      · unfold surviveAttack
        dsimp only
        split
        · exact hit.post.scheduleAfter
        · exact hit.post.modifyMonster
  · exact refl world

end Treads

/-! ## Tasks that move nobody -/

theorem tileOf_eq_core (id : ObjID) (world : World) : world.tileOf id =
    (world.coreOf id).bind fun core =>
      match core with
      | .item .. => none
      | _ => some (core.transform.x, core.transform.y) := by
  rw [tileOf, coreOf]
  cases world.objects id with
  | none => rfl
  | some subject =>
      rcases subject with ⟨name, transform, facing, body⟩
      cases body <;> rfl

theorem tileOf_modifyMonster {change : Monster → Monster} (other : ObjID) :
    (world.modifyMonster id change).tileOf other = world.tileOf other := by
  simp only [tileOf, modifyMonster, modify, Function.update_apply]
  split
  · next same =>
    subst same
    cases world.objects other with
    | none => rfl
    | some subject =>
        rcases subject with ⟨name, transform, facing, body⟩
        cases body <;> rfl
  · rfl

/-- Nobody but the acting monster moves a monster. -/
theorem Op.monster_stays (op : Op zone choice own before after) (filed : Filed before)
    (category : id.category = .eMonster) (other : own ≠ id) :
    after.tileOf id = before.tileOf id := by
  rcases op.aloof_or_contact filed category with aloof | contact
  · rw [tileOf_eq_core, tileOf_eq_core, aloof.core]
  · cases contact with
    | wake valid member =>
        rcases wakeUpMonster_cases zone id _ _ before with same | ⟨_, _, _, _, _, _, woken⟩
        · rw [same]
        · rw [woken]
          exact tileOf_modifyMonster id
    | wound valid found alive member attacker survives => exact tileOf_modifyMonster id
    | slay valid found alive member attacker fatal slays =>
        rw [tileOf_eq_core, slain_core found (by rw [category]; decide) slays,
          tileOf_of_getMonster found]
        dsimp only [Option.bind_some, Core.transform]
        split <;> rfl
    | tend isOwn keeps => exact absurd isOwn other
    | raise isOwn healed type => exact absurd isOwn other
    | step isOwn valid found alive => exact absurd isOwn other
    | schedule isOwn kind => exact absurd isOwn other

/-- What one subject does moves no monster but itself. -/
theorem Script.monster_stays (script : Script zone choice own before after)
    (mapped : Mapped before) (category : id.category = .eMonster) (other : own ≠ id) :
    after.tileOf id = before.tileOf id := by
  refine (Script.keeps (fun current => Mapped current ∧ current.tileOf id = before.tileOf id) ?_
    script ⟨mapped, rfl⟩).2
  rintro earlier later op ⟨kept, same⟩
  exact ⟨op.mapped kept, (op.monster_stays kept.filed category other).trans same⟩

/-- A task that leaves the users aside and is no task of a monster. -/
theorem Aside.treads (aside : Aside world after) (mapped : Mapped world)
    (script : Script thread choice own world after) (noMonster : own.category ≠ .eMonster) :
    Treads grid world after where
  tiles id tile found := by
    right
    obtain ⟨subject, registered, shown⟩ := Option.bind_eq_some_iff.mp found
    have category := aside.filed mapped.filed id subject registered
    cases bodyOf : subject.body with
    | user user =>
        have playing : after.getUser id = some (subject, user) :=
          getUser_eq_some.mpr ⟨registered, bodyOf⟩
        have person := personOf_eq_some_iff.mpr ⟨subject, user, playing, rfl⟩
        rw [aside.persons] at person
        obtain ⟨old, oldUser, wasPlaying, same⟩ := personOf_eq_some_iff.mp person
        have transform : old.transform = subject.transform := congrArg Person.transform same.symm
        rw [tileOf_of_getUser playing] at found
        rw [tileOf_of_getUser wasPlaying, ← found, Subject.x, Subject.y, transform]
        rfl
    | monster monster =>
        have monsterly : id.category = .eMonster := by
          rw [← category, Subject.category, bodyOf]
        have different : own ≠ id := fun same => noMonster (same ▸ monsterly)
        rw [← script.monster_stays mapped monsterly different]
        exact found
    | item item =>
        rw [Subject.tile, bodyOf] at shown
        contradiction
  tasks thread task member := .inr (aside.queues ▸ member)

/-! ## Tasks -/

/-- The two tasks that can go wrong do not: an accepted teleport aims at a clear
tile, and a login that has to draw a new position draws it in the zone it runs
in. -/
def isCareful (thread : Nat) (choice : Choice grid) (task : Task) (world : World) : Bool :=
  match task with
  | .dispatch session (.userTeleportReq x y) =>
      (world.playing session true).isSome → isValidWorldPosition x y → ¬isCollision grid x y
  | .getUserInfo session userInfo _ =>
      world.sessionState session = .stAlloc → (world.objects (ObjID.user session)).isNone →
        ¬isStandable grid userInfo.x userInfo.y →
          getZoneIdByWorld choice.worldDraw.1 choice.worldDraw.2 = thread
  | _ => true

/-- Care does not depend on what else is queued. -/
theorem isCareful_popped {task : Task} (rest : List Task) :
    world.isCareful thread choice task =
      isCareful thread choice task
        { world with queues := Function.update world.queues thread rest } := by
  unfold isCareful
  split <;> rfl

theorem moveRequest_treads {session : Nat} {direction : Int} (footed : Footed grid world)
    (ran : world.moveRequest thread choice session direction = some after) :
    Treads grid world after := by
  unfold moveRequest at ran
  split at ran
  · exact Option.some.inj ran ▸ Treads.refl world
  · next client user allowed =>
    split at ran
    · exact Option.some.inj ran ▸ Treads.refl world
    · split at ran
      · dsimp only at ran
        rw [onSector_eq_some] at ran
        rw [← Option.some.inj ran.2]
        have stamped : Treads grid world ((world.modifyUser (ObjID.user session) fun current =>
            { current with lastMoveTime := choice.now }).modify (ObjID.user session)
              (faceDirection direction)) := by
          apply (Treads.refl world).modifyUser.modifyBody
          intro subject
          unfold faceDirection
          split
          · rfl
          · split <;> rfl
        apply stamped.handlePlayerMove
        apply SubjectHelper.movePositionByDirection_clear
        exact footed _ _ (tileOf_of_getUser (playing_eq_some.mp allowed).2.1)
      · exact Option.some.inj ran ▸ Treads.refl world

theorem teleportRequest_treads {session : Nat} {x y : Int}
    (careful : world.isCareful thread choice (.dispatch session (.userTeleportReq x y)) = true)
    (ran : world.teleportRequest thread choice session x y = some after) :
    Treads grid world after := by
  unfold teleportRequest at ran
  split at ran
  · exact Option.some.inj ran ▸ Treads.refl world
  · next allowed =>
    split at ran
    · exact Option.some.inj ran ▸ Treads.refl world
    · next inside =>
      rw [onSector_eq_some] at ran
      rw [← Option.some.inj ran.2]
      apply (Treads.refl world).handlePlayerMove
      have accepted : isValidWorldPosition x y = true := by simpa using inside
      rw [isCareful, decide_eq_true_iff, allowed] at careful
      exact Bool.eq_false_of_not_eq_true (careful rfl accepted)

/-- A login that is careful ends on a free tile. -/
theorem handleGetUserInfo_treads {session : Nat} {userInfo : DbUserInfo} {items : List DbItemInfo}
    (valid : isValidZoneId thread = true)
    (settled : (Task.getUserInfo session userInfo items).Settled grid thread)
    (careful : world.isCareful thread choice (.getUserInfo session userInfo items) = true) :
    Treads grid world (world.handleGetUserInfo thread choice session userInfo items) := by
  unfold handleGetUserInfo
  dsimp only
  split
  · exact Treads.refl world
  · next alloc =>
    split
    · exact Treads.refl world
    · next free =>
      apply Treads.finishLogin
      unfold placeLoadedUser
      dsimp only
      split
      · next standable =>
        have clear := isStandable_iff.mp standable
        exact Treads.publishUser valid (settled clear) clear
      · next blocked =>
        rw [isCareful, decide_eq_true_iff] at careful
        have drawn := careful (not_not.mp alloc) (by simpa using free) blocked
        have placed : Treads grid world ((world.publishUser session
            (loadedUser choice.slots (ObjID.user session) userInfo items)).updatePosition thread
              (ObjID.user session) choice.worldDraw.1 choice.worldDraw.2) :=
          Treads.publishUser valid drawn choice.worldDraw_free
        split
        · exact placed
        · exact placed.congr rfl rfl

theorem handleAddUserInfo_treads {session : Nat} {userInfo : DbUserInfo}
    (valid : isValidZoneId thread = true) :
    Treads grid world (world.handleAddUserInfo thread choice session userInfo) := by
  unfold handleAddUserInfo
  dsimp only
  split
  · exact Treads.refl world
  · split
    · exact Treads.refl world
    · apply Treads.finishLogin
      exact Treads.publishUser valid (choice.zoneDraw_zone thread valid)
        (choice.zoneDraw_free thread valid)

theorem leaveWorld_treads {clientId : ObjID} {client : Subject} :
    Treads grid world (world.leaveWorld zone choice clientId client) := by
  have left : Treads grid world ((world.sendAll ((world.viewers choice.hash zone client).filter
      fun id => id ≠ clientId) (.subjectRemoveNfy clientId)).removeObject zone clientId
        client.transform) := (Treads.refl world).post.removeObject
  have saved : Treads grid world (((world.sendAll ((world.viewers choice.hash zone client).filter
      fun id => id ≠ clientId) (.subjectRemoveNfy clientId)).removeObject zone clientId
        client.transform).saveUserInfo choice clientId) := by
    unfold saveUserInfo
    split
    · exact left
    · split <;> exact left.congr rfl rfl
  unfold leaveWorld
  exact (saved.update fun _ impossible => by cases impossible).congr rfl rfl

theorem timerTask_treads {event : TimerEventType} {subjectId targetId : ObjID}
    (footed : Footed grid world)
    (ran : world.timerTask thread choice event subjectId targetId = some after) :
    Treads grid world after := by
  cases event with
  | evHeal =>
      rw [← Option.some.inj ran]
      unfold handleHeal
      split
      · exact Treads.refl world
      · split
        · exact Treads.refl world
        · split
          · exact Treads.refl world
          · exact (Treads.refl world).modifyUser.post.scheduleAfter
  | evItemLootPriorityExpire =>
      rw [← Option.some.inj ran]
      exact (Treads.refl world).modifyItem
  | evUserRespawn =>
      rcases ifRegistered_eq_some.mp ran with ⟨_, rfl⟩ | ⟨_, valid, rfl⟩
      · exact Treads.refl after
      · exact (Treads.refl world).handleUserRespawn valid
  | evMonsterAttackToUser =>
      rcases ifRegistered_eq_some.mp ran with ⟨_, rfl⟩ | ⟨_, _, rfl⟩
      · exact Treads.refl after
      · exact Treads.handleAttackToPlayer
  | evRandomMove =>
      rcases ifRegistered_eq_some.mp ran with ⟨_, rfl⟩ | ⟨_, _, rfl⟩
      · exact Treads.refl after
      · exact Treads.handleRandomMove footed
  | evMonsterRespawn =>
      rcases ifRegistered_eq_some.mp ran with ⟨_, rfl⟩ | ⟨_, valid, rfl⟩
      · exact Treads.refl after
      · exact Treads.handleMonsterRespawn valid
  | evAggroMove =>
      rcases ifRegistered_eq_some.mp ran with ⟨_, rfl⟩ | ⟨_, _, rfl⟩
      · exact Treads.refl after
      · exact Treads.handleAggroMove footed
  | evItemDespawn =>
      rcases ifRegistered_eq_some.mp ran with ⟨_, rfl⟩ | ⟨_, _, rfl⟩
      · exact Treads.refl after
      · unfold handleDespawn
        split
        · exact Treads.refl world
        · unfold removeFieldItem
          exact Treads.update ((Treads.refl world).post.removeObject.congr rfl rfl)
            fun _ impossible => by cases impossible

theorem dispatch_treads {session : Nat} {packet : ClientPacket} (mapped : Mapped world)
    (footed : Footed grid world)
    (careful : world.isCareful thread choice (.dispatch session packet) = true)
    (ran : world.dispatch thread choice session packet = some after) :
    Treads grid world after := by
  have idle : Aside world after → Treads grid world after := by
    intro aside
    refine aside.treads mapped (dispatch_script ran) ?_
    cases packet <;> nofun
  cases packet with
  | userMoveReq direction => exact moveRequest_treads footed ran
  | userTeleportReq x y => exact teleportRequest_treads careful ran
  | userLoginReq name password => exact idle (loginRequest_aside ran)
  | userAttackReq facing => exact idle (attackRequest_aside ran)
  | userSkillReq => exact idle (skillRequest_aside ran)
  | itemEquipReq index => exact idle (equipRequest_aside ran)
  | itemUnequipReq index => exact idle (unequipRequest_aside ran)
  | itemSwapReq indexA indexB => exact idle (swapRequest_aside ran)
  | itemDiscardReq index count => exact idle (discardRequest_aside ran)
  | itemPickupReq => exact idle (pickupRequest_aside ran)
  | itemUseReq index => exact idle (useRequest_aside ran)
  | csChat mess => exact idle (chatRequest_aside ran)

/-- Every careful task treads on clear tiles. -/
theorem exec_treads {task : Task} (mapped : Mapped world) (footed : Footed grid world)
    (settled : task.Settled grid thread) (careful : world.isCareful thread choice task = true)
    (ran : world.exec thread choice task = some after) : Treads grid world after := by
  cases task with
  | dispatch session packet => exact dispatch_treads mapped footed careful ran
  | closeSession session => exact Option.some.inj ran ▸ Treads.refl world
  | disconnect clientId =>
      simp only [exec, disconnect] at ran
      split at ran
      · exact Option.some.inj ran ▸ Treads.refl world
      · split at ran
        · rw [← Option.some.inj ran]
          exact (Treads.refl world).enqueueByZone trivial
        · rw [onSector_eq_some] at ran
          exact Option.some.inj ran.2 ▸ leaveWorld_treads
  | enterZone playerId x y =>
      rcases ifRegistered_eq_some.mp ran with ⟨_, rfl⟩ | ⟨_, valid, rfl⟩
      · exact Treads.refl after
      · exact (Treads.refl world).handleEnterZone valid settled
  | getUserInfo session userInfo items =>
      rw [exec] at ran
      split at ran
      · exact Option.some.inj ran ▸ Treads.refl world
      · rw [onSector_eq_some] at ran
        exact Option.some.inj ran.2 ▸ handleGetUserInfo_treads ran.1 settled careful
  | addUserInfo session userInfo =>
      rw [exec] at ran
      split at ran
      · exact Option.some.inj ran ▸ Treads.refl world
      · rw [onSector_eq_some] at ran
        exact Option.some.inj ran.2 ▸ handleAddUserInfo_treads ran.1
  | timer event subjectId targetId => exact timerTask_treads footed ran

end World

/-! ## Runs -/

namespace Server

open World

variable {collate : String → String}

/-- The tiles and the queues of a server on which nobody is stuck. -/
structure Footing (grid : CollisionGrid) (world : World) : Prop where
  footed : Footed grid world
  tasks : ∀ thread, ∀ task ∈ world.queues thread, task.Settled grid thread

/-- A queued task that relies on nothing, or on the thread it is queued to. -/
theorem Footing.enqueue {world : World} {zoneId : Nat} {task : Task} (footing : Footing grid world)
    (settled : task.Settled grid (threadOf zoneId)) :
    Footing grid (world.enqueueByZone zoneId task) where
  footed := footing.footed
  tasks thread other member := by
    simp only [enqueueByZone, Function.update_apply] at member
    split at member
    · next here =>
      subst here
      rcases List.mem_append.mp member with old | new
      · exact footing.tasks _ other old
      · exact List.mem_singleton.mp new ▸ settled
    · exact footing.tasks thread other member

theorem Footing.congr {world changed : World} (footing : Footing grid world)
    (objects : changed.objects = world.objects) (queues : changed.queues = world.queues) :
    Footing grid changed where
  footed id tile found := by
    rw [tileOf, objects] at found
    exact footing.footed id tile found
  tasks thread task member := by
    rw [queues] at member
    exact footing.tasks thread task member

/-- The entry that runs leads to a free tile. -/
theorem Footing.popped {world : World} {thread : Nat} {task : Task} {rest : List Task}
    (footing : Footing grid world) (queued : world.queues thread = task :: rest) :
    Footing grid { world with queues := Function.update world.queues thread rest } where
  footed := footing.footed
  tasks place other member := by
    dsimp only at member
    rw [Function.update_apply] at member
    split at member
    · next here =>
      subst here
      exact footing.tasks place other (queued ▸ List.mem_cons_of_mem _ member)
    · exact footing.tasks place other member

/-- The step runs no careless task. -/
def isCareful (label : Label grid) (server : Server collate) : Bool :=
  match label with
  | .run thread choice =>
      match server.world.queues thread with
      | [] => true
      | task :: _ => server.world.isCareful thread choice task
  | _ => true

/-- Every careful step keeps everyone on free tiles. -/
theorem step_footing {label : Label grid} {before after : Server collate}
    (careful : isCareful label before = true) (taken : step label before = some after)
    (mapped : Mapped before.world) (footing : Footing grid before.world) :
    Footing grid after.world := by
  cases label with
  | accept =>
      simp only [step, accept] at taken
      split at taken
      · rw [← Option.some.inj taken]
        exact footing.congr rfl rfl
      · contradiction
  | receive session packet =>
      simp only [step, receive] at taken
      split at taken
      · rw [← Option.some.inj taken]
        exact footing.enqueue trivial
      · contradiction
  | hangUp session =>
      simp only [step, hangUp] at taken
      split at taken
      · split at taken
        · rw [← Option.some.inj taken]
          exact footing.enqueue trivial
        · rw [← Option.some.inj taken]
          exact footing.enqueue trivial
      · contradiction
  | fire index =>
      simp only [step, fire] at taken
      split at taken
      · contradiction
      · rw [← Option.some.inj taken]
        dsimp only
        rw [dispatchTimer_eq]
        exact Footing.enqueue (footing.congr rfl rfl) trivial
  | database index calls written =>
      simp only [step, database] at taken
      split at taken
      · contradiction
      · split at taken
        · rw [← Option.some.inj taken]
          unfold handOver
          split
          · exact footing.congr rfl rfl
          · exact footing.congr rfl rfl
          · next userInfo items _ =>
            have waiting : Footing grid { before.world with
                dbRequests := before.world.dbRequests.eraseIdx index } := footing.congr rfl rfl
            refine waiting.enqueue fun clear => ?_
            exact (threadOf_valid (isValidZoneId_of_clear clear)).symm
          · have waiting : Footing grid { before.world with
                dbRequests := before.world.dbRequests.eraseIdx index } := footing.congr rfl rfl
            exact waiting.enqueue trivial
        · rw [← Option.some.inj taken]
          split <;> exact footing.congr rfl rfl
  | run thread choice =>
      simp only [step, runThread] at taken
      split at taken
      · contradiction
      · next task rest queued =>
        obtain ⟨world, ran, rfl⟩ := Option.map_eq_some_iff.mp taken
        have popped := footing.popped queued
        have settled := footing.tasks thread task (queued ▸ List.mem_cons_self)
        have carefully : before.world.isCareful thread choice task = true := by
          simpa only [isCareful, queued] using careful
        rw [isCareful_popped rest] at carefully
        have kept : Mapped { before.world with
            queues := Function.update before.world.queues thread rest } :=
          mapped.congr rfl rfl rfl rfl
        have treads := exec_treads kept popped.footed settled carefully ran
        refine ⟨treads.footed popped.footed, ?_⟩
        intro place other member
        rcases treads.tasks place other member with sound | old
        · exact sound.settled place
        · exact popped.tasks place other old

theorem boot_footing (count : Nat) {draw : Nat → Int × Int} (valid : ValidDraws grid draw) :
    Footing grid (World.boot count draw) := by
  have booted := boot_booted count valid
  constructor
  case footed =>
    intro id tile found
    obtain ⟨subject, registered, shown⟩ := Option.bind_eq_some_iff.mp found
    obtain ⟨index, member, rfl⟩ := booted.only id (by simp [registered])
    rw [booted.monsters index member] at registered
    rw [← Option.some.inj registered] at shown
    rw [← Option.some.inj shown]
    exact (valid index).2
  case tasks =>
    intro thread task member
    rw [booted.queues] at member
    exact absurd member List.not_mem_nil

/-- Everyone stands on a free tile in every state of a careful run. -/
theorem run_footing {count : Nat} {draw : Nat → Int × Int} {store : Store collate}
    {labels : List (Label grid)} {server : Server collate} (valid : ValidDraws grid draw)
    (careful : Along step (fun label server => isCareful label server = true) labels
      (boot count draw store))
    (ran : run step labels (boot count draw store) = some server) : Footing grid server.world := by
  have stepwise : ∀ (label : Label grid) (before after : Server collate),
      isCareful label before = true → step label before = some after →
        Mapped before.world ∧ Footing grid before.world →
        Mapped after.world ∧ Footing grid after.world :=
    fun _ _ _ careful taken both =>
      ⟨step_mapped taken both.1, step_footing careful taken both.1 both.2⟩
  exact (invariant_of_along stepwise careful ran ⟨boot_mapped count draw, boot_footing count valid⟩).2

/-- Every living user in the game that is between no zones, and every living
monster, stands inside the world on a tile without obstacle. -/
structure NobodyStuck (grid : CollisionGrid) (world : World) : Prop where
  users : ∀ id client user, world.getUser id = some (client, user) → world.isIngame id = true →
    user.stat.dead = false → client.transform.transferring = false →
      (0 ≤ client.x ∧ client.x < wWidth ∧ 0 ≤ client.y ∧ client.y < wHeight) ∧
        isCollision grid client.x client.y = false
  monsters : ∀ id subject monster, world.getMonster id = some (subject, monster) →
    monster.stat.dead = false →
      (0 ≤ subject.x ∧ subject.x < wWidth ∧ 0 ≤ subject.y ∧ subject.y < wHeight) ∧
        isCollision grid subject.x subject.y = false

/-- With free tiles under everyone, nobody is stuck. -/
theorem Footing.nobodyStuck {world : World} (footing : Footing grid world) :
    NobodyStuck grid world where
  users id client user found _ _ _ := by
    have clear := footing.footed id _ (tileOf_of_getUser found)
    exact ⟨clear.inside, clear⟩
  monsters id subject monster found _ := by
    have clear := footing.footed id _ (tileOf_of_getMonster found)
    exact ⟨clear.inside, clear⟩

/-- On every grid, as long as no careless task is run. -/
theorem nobody_on_obstacle {count : Nat} {draw : Nat → Int × Int} {store : Store collate}
    {labels : List (Label grid)} {server : Server collate} (valid : ValidDraws grid draw)
    (careful : Along step (fun label server => isCareful label server = true) labels
      (boot count draw store))
    (ran : run step labels (boot count draw store) = some server) :
    NobodyStuck grid server.world :=
  (run_footing valid careful ran).nobodyStuck

/-- A stored player logs in and walks into the next zone. -/
def stroll : List (Label initCollisionTile) :=
  [.accept, .receive 1 (.userLoginReq "kim" ""), .run invalidZoneId .steady, .database 0 {} true,
    .run 0 .steady, .receive 1 (.userTeleportReq 509 9), .run 0 .steady, .run 1 .steady,
    .receive 1 (.userMoveReq 7), .run 1 .steady]

/-- A user walks and teleports. -/
theorem nobody_on_obstacle_sample :
    ∃ server, run step stroll (boot 0 World.steadyDraw World.savedStore) = some server ∧
      NobodyStuck initCollisionTile server.world := by
  have completes : (run step stroll (boot 0 World.steadyDraw World.savedStore)).isSome := by rfl
  obtain ⟨server, ran⟩ := Option.isSome_iff_exists.mp completes
  exact ⟨server, ran, nobody_on_obstacle World.steadyDraw_valid (along_of_check (by rfl)) ran⟩

/-- A player who stands where a wall is now. -/
def obstructedStore : Store id where
  players :=
    { rows := [⟨1, "kim", "", 510, 0, 3, 12⟩]
      nextId := 4
      primaryKey := by decide
      uniqueNames := by decide
      identity := by simp
      one_le_nextId := by decide }
  inventory := savedStore.inventory

/-- A teleport is not checked against the obstacles, and a login that draws a
position in another zone leaves its user outside the world. -/
theorem somebody_on_obstacle :
    (∃ server, run step
        [.accept, .receive 1 (.userLoginReq "kim" ""), .run invalidZoneId .steady,
          .database 0 {} true, .run 0 .steady, .receive 1 (.userTeleportReq 6 0), .run 0 .steady]
        (boot 0 World.steadyDraw World.savedStore) = some server ∧
      ¬NobodyStuck initCollisionTile server.world) ∧
    ∃ server, run step
        [.accept, .receive 1 (.userLoginReq "kim" ""), .run invalidZoneId .steady,
          .database 0 {} true, .run 1 .steady]
        (boot 0 World.steadyDraw obstructedStore) = some server ∧
      ¬NobodyStuck initCollisionTile server.world := by
  constructor
  · refine ⟨_, rfl, ?_⟩
    intro nobody
    have stands := (nobody.users (ObjID.user 1) _ _ rfl rfl rfl rfl).2
    exact absurd stands (by decide)
  · refine ⟨_, rfl, ?_⟩
    intro nobody
    have stands := (nobody.users (ObjID.user 1) _ _ rfl rfl rfl rfl).1.1
    exact absurd stands (by decide)

end Server

end Mmorpg
