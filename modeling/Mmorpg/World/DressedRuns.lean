import Mmorpg.World.DressedRequests
import Mmorpg.World.LoginFailure
import Mmorpg.World.ZoneMap

/-!
# Runs inside one zone

As long as only one zone thread and the default thread run tasks, every user in
view is shown with its weapon, if every respawn meets viewers who know it and
no login loads more than one worn item.
-/

namespace Mmorpg

open ZoneLayout Transition

variable {grid : CollisionGrid} {zone thread : Nat} {choice : Choice grid} {world after : World}

namespace World

open Scene

/-! ## Tasks -/

/-- Everybody in view of the tile a respawn draws, other than the user itself,
knows its weapon. -/
def agreesOn (thread : Nat) (choice : Choice grid) (playerId : ObjID) (player : Subject)
    (user : User) (world : World) : Bool :=
  let drawn := choice.zoneDraw thread
  (world.viewers choice.hash thread (player.placedAt thread drawn.1 drawn.2)).all fun id =>
    id = playerId ∨ (world.shownWeapon id.databaseId playerId.databaseId).getD itemTableIdNone =
      user.inventory.getEquippedItemId choice.slots

/-- The task is no respawn in front of somebody who does not know the weapon,
and no login with several worn items. -/
def isAnnounced (thread : Nat) (choice : Choice grid) (task : Task) (world : World) : Bool :=
  match task with
  | .timer .evUserRespawn playerId _ =>
      match world.getUser playerId with
      | none => true
      | some (player, user) => world.agreesOn thread choice playerId player user
  | .getUserInfo session _ items =>
      world.sessionState session ≠ .stAlloc ∨ (world.objects (ObjID.user session)).isSome ∨
        (Inventory.wornRows items).length ≤ 1
  | _ => true

/-- Users are registered under their sessions. -/
theorem session_of_user {id : ObjID} {entry : Subject × User} (filed : Filed world)
    (found : world.getUser id = some entry) : ∃ session, id = ObjID.user session :=
  ⟨_, user_of_category (filed.user found)⟩

theorem notUser_of_monster {id : ObjID} {entry : Subject × Monster} (filed : Filed world)
    (found : world.getMonster id = some entry) : id.category ≠ .eUser := by
  rw [filed.monster found]
  decide

theorem notUser_of_item {id : ObjID} {entry : Subject × Item} (filed : Filed world)
    (found : world.getItem id = some entry) : id.category ≠ .eUser := by
  rw [filed.item found]
  decide

section Tasks

variable (valid : isValidZoneId zone = true) (staged : world.scene.Staged zone)

include valid staged

theorem moveRequest_staged {session : Nat} {direction : Int}
    (within : isValidZoneId thread = true → thread = zone)
    (ran : world.moveRequest thread choice session direction = some after) :
    after.scene.Staged zone := by
  unfold moveRequest at ran
  split at ran
  · exact Option.some.inj ran ▸ staged
  · next client user allowed =>
    obtain ⟨_, found, alive, settled⟩ := playing_eq_some.mp allowed
    split at ran
    · exact Option.some.inj ran ▸ staged
    · split at ran
      · dsimp only at ran
        rw [onSector_eq_some] at ran
        have stamped : ((world.modifyUser (ObjID.user session) fun current =>
            { current with lastMoveTime := choice.now }).modify (ObjID.user session)
              (faceDirection direction)).scene = world.scene := by
          rw [scene_modify, scene_modifyUser]
          · exact fun _ => rfl
          · exact fun _ => rfl
          · intro subject
            unfold faceDirection
            split
            · rfl
            · split <;> rfl
        rw [← Option.some.inj ran.2, within ran.1]
        apply handlePlayerMove_staged valid (stamped.symm ▸ staged)
        · rw [stamped]
          exact figure_of_getUser found
        · exact eq_false_of_ne_true fun dead => alive ⟨rfl, dead⟩
        · exact settled
      · exact Option.some.inj ran ▸ staged

theorem teleportRequest_staged {session : Nat} {x y : Int}
    (within : isValidZoneId thread = true → thread = zone)
    (ran : world.teleportRequest thread choice session x y = some after) :
    after.scene.Staged zone := by
  unfold teleportRequest at ran
  split at ran
  · exact Option.some.inj ran ▸ staged
  · next found allowed =>
    obtain ⟨client, user⟩ := found
    obtain ⟨_, found, alive, settled⟩ := playing_eq_some.mp allowed
    split at ran
    · exact Option.some.inj ran ▸ staged
    · rw [onSector_eq_some] at ran
      rw [← Option.some.inj ran.2, within ran.1]
      apply handlePlayerMove_staged valid staged (figure_of_getUser found) _ settled
      exact eq_false_of_ne_true fun dead => alive ⟨rfl, dead⟩

/-- Every request that meets the condition keeps the scene. -/
theorem dispatch_staged {session : Nat} {packet : ClientPacket}
    (within : isValidZoneId thread = true → thread = zone)
    (ran : world.dispatch thread choice session packet = some after) :
    after.scene.Staged zone := by
  cases packet with
  | userLoginReq name password =>
      rw [scene_loginRequest ran]
      exact staged
  | userMoveReq direction => exact moveRequest_staged valid staged within ran
  | userAttackReq facing =>
      rw [scene_attackRequest ran]
      exact staged
  | userSkillReq =>
      rw [scene_skillRequest ran]
      exact staged
  | userTeleportReq x y => exact teleportRequest_staged valid staged within ran
  | itemEquipReq index => exact equipRequest_staged staged within ran
  | itemUnequipReq index => exact unequipRequest_staged staged within ran
  | itemSwapReq indexA indexB => exact swapRequest_staged staged ran
  | itemDiscardReq index count => exact discardRequest_staged staged within ran
  | itemPickupReq => exact pickupRequest_staged staged ran
  | itemUseReq index => exact useRequest_staged staged ran
  | csChat mess =>
      rw [scene_chatRequest ran]
      exact staged

/-- A respawn that meets the condition keeps the scene. -/
theorem respawn_staged {playerId : ObjID} (filed : Filed world)
    (announced : world.isAnnounced zone choice (.timer .evUserRespawn playerId ObjID.npos) = true) :
    (world.handleUserRespawn zone choice playerId).scene.Staged zone := by
  cases found : world.getUser playerId with
  | none =>
      rw [handleUserRespawn, found]
      exact staged
  | some entry =>
      obtain ⟨player, user⟩ := entry
      obtain ⟨session, rfl⟩ := session_of_user filed found
      simp only [isAnnounced, found, agreesOn, List.all_eq_true, decide_eq_true_iff] at announced
      have armed := staged.laid.armed _ _ (figure_of_getUser found)
      rw [Inventory.getEquippedItemId_eq_weapon armed.1 armed.2] at announced
      apply handleUserRespawn_staged valid staged found
      intro viewer seer other viewing near
      have seen := (mem_viewers_of_laid staged.laid choice.hash (player.placedAt zone
        (choice.zoneDraw zone).1 (choice.zoneDraw zone).2) viewer).mpr ⟨seer, viewing, near⟩
      exact (announced _ seen).resolve_left fun same => other (ObjID.user_inj.mp same)

/-- Every timer event that meets the condition keeps the scene. -/
theorem timerTask_staged {event : TimerEventType} {subjectId targetId : ObjID}
    (filed : Filed world) (within : isValidZoneId thread = true → thread = zone)
    (announced : world.isAnnounced thread choice (.timer event subjectId targetId) = true)
    (ran : world.timerTask thread choice event subjectId targetId = some after) :
    after.scene.Staged zone := by
  cases event with
  | evHeal =>
      rw [← Option.some.inj ran, scene_handleHeal]
      exact staged
  | evItemLootPriorityExpire =>
      rw [← Option.some.inj ran, handleLootPriorityExpire, scene_modifyItem]
      exact staged
  | evUserRespawn =>
      rcases ifRegistered_eq_some.mp ran with ⟨_, rfl⟩ | ⟨_, inside, rfl⟩
      · exact staged
      · rw [within inside] at announced ⊢
        exact respawn_staged valid staged filed announced
  | evMonsterAttackToUser =>
      rcases ifRegistered_eq_some.mp ran with ⟨_, rfl⟩ | ⟨_, inside, rfl⟩
      · exact staged
      · rw [within inside]
        cases found : world.getUser targetId with
        | none =>
            unfold handleAttackToPlayer
            rw [found]
            split
            · contradiction
            · exact staged
        | some entry =>
            obtain ⟨session, rfl⟩ := session_of_user filed found
            exact handleAttackToPlayer_staged valid staged
  | evRandomMove =>
      rcases ifRegistered_eq_some.mp ran with ⟨_, rfl⟩ | ⟨⟨entry, found⟩, _, rfl⟩
      · exact staged
      · rw [scene_handleRandomMove (notUser_of_monster filed found)]
        exact staged
  | evMonsterRespawn =>
      rcases ifRegistered_eq_some.mp ran with ⟨_, rfl⟩ | ⟨⟨entry, found⟩, _, rfl⟩
      · exact staged
      · rw [scene_handleMonsterRespawn (notUser_of_monster filed found)]
        exact staged
  | evAggroMove =>
      rcases ifRegistered_eq_some.mp ran with ⟨_, rfl⟩ | ⟨⟨entry, found⟩, _, rfl⟩
      · exact staged
      · rw [scene_handleAggroMove (notUser_of_monster filed found)]
        exact staged
  | evItemDespawn =>
      rcases ifRegistered_eq_some.mp ran with ⟨_, rfl⟩ | ⟨⟨entry, found⟩, _, rfl⟩
      · exact staged
      · rw [handleDespawn, found]
        dsimp only
        rw [scene_removeFieldItem (notUser_of_item filed found)]
        exact staged

/-- An announced task keeps the scene dressed. -/
theorem exec_staged {task : Task} (filed : Filed world)
    (within : isValidZoneId thread = true → thread = zone)
    (announced : world.isAnnounced thread choice task = true)
    (ran : world.exec thread choice task = some after) : after.scene.Staged zone := by
  cases task with
  | dispatch session packet => exact dispatch_staged valid staged within ran
  | closeSession session => exact Option.some.inj ran ▸ staged
  | disconnect clientId =>
      cases found : world.getUser clientId with
      | none =>
          rw [exec, disconnect, found] at ran
          exact Option.some.inj ran ▸ staged
      | some entry =>
          obtain ⟨session, rfl⟩ := session_of_user filed found
          exact disconnect_staged valid staged within ran
  | enterZone playerId x y =>
      rcases ifRegistered_eq_some.mp ran with ⟨_, rfl⟩ | ⟨⟨⟨player, user⟩, found⟩, inside, rfl⟩
      · exact staged
      · obtain ⟨session, rfl⟩ := session_of_user filed found
        rw [within inside]
        exact handleEnterZone_staged valid staged found
  | getUserInfo session userInfo items =>
      rw [exec] at ran
      split at ran
      · exact Option.some.inj ran ▸ staged
      · next alloc =>
        rw [onSector_eq_some] at ran
        rw [← Option.some.inj ran.2, within ran.1]
        cases found : world.objects (ObjID.user session) with
        | none =>
            simp only [isAnnounced, found, decide_eq_true_iff] at announced
            apply handleGetUserInfo_staged valid staged (not_not.mp alloc) found
            simpa [alloc] using announced
        | some subject =>
            rw [handleGetUserInfo, if_neg alloc, found]
            exact staged
  | addUserInfo session userInfo =>
      rw [exec] at ran
      split at ran
      · exact Option.some.inj ran ▸ staged
      · next alloc =>
        rw [onSector_eq_some] at ran
        rw [← Option.some.inj ran.2, within ran.1]
        cases found : world.objects (ObjID.user session) with
        | none => exact handleAddUserInfo_staged valid staged (not_not.mp alloc) found
        | some subject =>
            rw [handleAddUserInfo, if_neg alloc, found]
            exact staged
  | timer event subjectId targetId => exact timerTask_staged valid staged filed within announced ran

end Tasks

/-! ## The start -/

theorem scene_boot (count : Nat) (draw : Nat → Int × Int) :
    (boot count draw).scene = ⟨fun _ => none, fun _ _ _ => False, fun _ => .stFree,
      fun _ _ => none⟩ := by
  apply boot_invariant fun _ world => world.scene = ⟨fun _ => none, fun _ _ _ => False,
    fun _ => .stFree, fun _ _ => none⟩
  · refine Scene.ext rfl ?_ rfl rfl
    funext session zone sector
    exact eq_false (Cell.not_mem_empty _)
  · exact fun _ _ _ _ _ before => scene_initMonster.trans before

theorem boot_staged (count : Nat) (draw : Nat → Int × Int) :
    (boot count draw).scene.Staged zone := by
  rw [scene_boot]
  constructor
  · constructor
    · intro session otherZone sector
      constructor
      · exact False.elim
      · rintro ⟨_, impossible, _⟩
        contradiction
    · exact fun _ _ impossible => by contradiction
    · exact fun _ _ impossible => by contradiction
    · exact fun _ _ impossible => by contradiction
  · exact fun _ _ _ _ _ impossible => by contradiction

end World

/-! ## Runs -/

namespace Server

open World Scene

variable {collate : String → String}

/-- Of the zone threads only that of `zone` runs tasks. -/
def Label.isWithin (zone : Nat) : Label grid → Bool
  | .run thread _ => isValidZoneId thread = true → thread = zone
  | _ => true

/-- The step runs no unannounced task. -/
def isAnnounced (label : Label grid) (server : Server collate) : Bool :=
  match label with
  | .run thread choice =>
      match server.world.queues thread with
      | [] => true
      | task :: _ => server.world.isAnnounced thread choice task
  | _ => true

theorem accept_staged {before after : Server collate} (taken : before.accept = some after)
    (mapped : Mapped before.world) (staged : before.world.scene.Staged zone) :
    after.world.scene.Staged zone := by
  unfold accept at taken
  dsimp only at taken
  split at taken
  · rw [← Option.some.inj taken]
    refine ⟨⟨staged.laid.stands, staged.laid.located, ?_, staged.laid.armed⟩, staged.dressed⟩
    intro session figure found
    have ingame := staged.laid.ingame session figure found
    simp only [scene, sessionState] at ingame ⊢
    by_cases fresh : session = before.world.nextObjectId
    · rw [mapped.fresh session fresh.ge] at ingame
      contradiction
    · rw [Function.update_of_ne fresh]
      exact ingame
  · contradiction

/-- Queues, timers and requests change no scene. -/
theorem step_scene {label : Label grid} {before after : Server collate}
    (taken : step label before = some after) (accepts : label ≠ .accept)
    (noTask : ∀ thread choice, label ≠ .run thread choice) :
    after.world.scene = before.world.scene := by
  cases label with
  | accept => exact absurd rfl accepts
  | receive sender packet =>
      simp only [step, receive] at taken
      split at taken
      · rw [← Option.some.inj taken]
        exact scene_enqueueByZone
      · contradiction
  | hangUp sender =>
      simp only [step, hangUp] at taken
      split at taken
      · split at taken
        · rw [← Option.some.inj taken]
          exact scene_enqueueByZone
        · rw [← Option.some.inj taken]
          exact scene_enqueueByZone
      · contradiction
  | fire index =>
      simp only [step, fire] at taken
      split at taken
      · contradiction
      · rw [← Option.some.inj taken]
        dsimp only
        rw [dispatchTimer_eq, scene_enqueueByZone]
        exact scene_congr rfl rfl rfl rfl
  | database index calls written =>
      simp only [step, database] at taken
      split at taken
      · contradiction
      · split at taken
        · rw [← Option.some.inj taken]
          unfold handOver
          split
          · exact scene_congr rfl rfl rfl rfl
          · refine (scene_post ?_).trans (scene_congr rfl rfl rfl rfl)
            intro entry member
            rw [List.mem_singleton.mp member]
            exact unworn_of_bearer rfl
          · exact scene_enqueueByZone.trans (scene_congr rfl rfl rfl rfl)
          · exact scene_enqueueByZone.trans (scene_congr rfl rfl rfl rfl)
        · rw [← Option.some.inj taken]
          split <;> exact scene_congr rfl rfl rfl rfl
  | run thread choice => exact absurd rfl (noTask thread choice)

/-- Every step that meets the condition keeps the scene. -/
theorem step_staged {label : Label grid} {before after : Server collate}
    (valid : isValidZoneId zone = true) (within : label.isWithin zone = true)
    (announced : isAnnounced label before = true) (taken : step label before = some after)
    (mapped : Mapped before.world) (staged : before.world.scene.Staged zone) :
    after.world.scene.Staged zone := by
  cases label with
  | accept => exact accept_staged taken mapped staged
  | run thread choice =>
      simp only [step, runThread] at taken
      split at taken
      · contradiction
      · next task rest queued =>
        obtain ⟨world, ran, rfl⟩ := Option.map_eq_some_iff.mp taken
        simp only [isAnnounced, queued] at announced
        have popped : Mapped { before.world with
            queues := Function.update before.world.queues thread rest } :=
          mapped.congr rfl rfl rfl rfl
        have waiting : (scene { before.world with
            queues := Function.update before.world.queues thread rest }).Staged zone := staged
        exact exec_staged valid waiting popped.filed (of_decide_eq_true within) announced ran
  | receive sender packet =>
      rw [step_scene taken (by simp) (by simp)]
      exact staged
  | hangUp sender =>
      rw [step_scene taken (by simp) (by simp)]
      exact staged
  | fire index =>
      rw [step_scene taken (by simp) (by simp)]
      exact staged
  | database index calls written =>
      rw [step_scene taken (by simp) (by simp)]
      exact staged

/-- The scene is in order in every state of such a run. -/
theorem run_staged {count : Nat} {draw : Nat → Int × Int} {store : Store collate}
    {labels : List (Label grid)} {server : Server collate} (valid : isValidZoneId zone = true)
    (within : ∀ label ∈ labels, label.isWithin zone = true)
    (announced : Along step (fun label server => isAnnounced label server = true) labels
      (boot count draw store))
    (ran : run step labels (boot count draw store) = some server) :
    server.world.scene.Staged zone := by
  have stepwise : ∀ (label : Label grid) (before after : Server collate),
      label.isWithin zone = true ∧ isAnnounced label before = true → step label before = some after →
        Mapped before.world ∧ before.world.scene.Staged zone →
        Mapped after.world ∧ after.world.scene.Staged zone :=
    fun _ _ _ allowed taken both =>
      ⟨step_mapped taken both.1, step_staged valid allowed.1 allowed.2 taken both.1 both.2⟩
  have initially : Mapped (boot count draw store).world ∧
      (boot count draw store).world.scene.Staged zone :=
    ⟨boot_mapped count draw, boot_staged count draw⟩
  exact (invariant_of_along stepwise (announced.and_labels within) ran initially).2

/-- The players the client of a user shows once it has processed everything
posted to it. -/
def clientPlayers (viewer : Nat) (world : World) : ClientPlayers :=
  (world.received viewer).foldl (ClientPlayers.processPacket (ObjID.user viewer)) .empty

/-- The weapon a client shows, from the packets it was sent. -/
theorem weaponOf_clientPlayers {viewer target : Nat} (different : viewer ≠ target) :
    (clientPlayers viewer world).weaponOf (ObjID.user target) = world.shownWeapon viewer target := by
  have foreign : ObjID.user target ≠ ObjID.user viewer := fun same =>
    different (ObjID.user_inj.mp same).symm
  exact ClientPlayers.weaponOf_foldl foreign rfl (world.received viewer) .empty

/-- Every client shows every living user in its own user's view with the weapon
that user wears. -/
def WeaponsShown (grid : CollisionGrid) (zone : Nat) (world : World) : Prop :=
  ∀ (choice : Choice grid) viewer target player user,
    world.getUser (ObjID.user target) = some (player, user) → user.stat.dead = false →
      ObjID.user target ∈ world.collectSubjects zone choice (ObjID.user viewer) →
        (clientPlayers viewer world).weaponOf (ObjID.user target) =
          some (user.inventory.getEquippedItemId choice.slots)

/-- In an ordered scene everyone in view is shown with its weapon. -/
theorem weaponsShown_of_staged (staged : world.scene.Staged zone) : WeaponsShown grid zone world := by
  intro choice viewer target player user found _ member
  have figured := figure_of_getUser found
  have armed := staged.laid.armed target _ figured
  have different := ((mem_collectSubjects_of_laid staged.laid choice viewer target).mp member).1
  calc
    (clientPlayers viewer world).weaponOf (ObjID.user target) = world.shownWeapon viewer target :=
      weaponOf_clientPlayers different
    _ = some user.inventory.slots.weapon := shown_of_collected staged member figured
    _ = some (user.inventory.getEquippedItemId choice.slots) := by
      rw [Inventory.getEquippedItemId_eq_weapon armed.1 armed.2]

/-- In every run inside a zone whose respawns meet viewers who know the weapon,
and whose logins load at most one worn item. -/
theorem weapons_shown {count : Nat} {draw : Nat → Int × Int} {store : Store collate}
    {labels : List (Label grid)} {server : Server collate} (valid : isValidZoneId zone = true)
    (within : ∀ label ∈ labels, label.isWithin zone = true)
    (announced : Along step (fun label server => isAnnounced label server = true) labels
      (boot count draw store))
    (ran : run step labels (boot count draw store) = some server) :
    WeaponsShown grid zone server.world :=
  weaponsShown_of_staged (run_staged valid within announced ran)

/-- Two players, the first with the given items. -/
def pairStore (items : InventoryTable) : Store id where
  players :=
    { rows := [⟨1, "kim", "", 10, 9, 3, 12⟩, ⟨2, "lee", "", 9, 9, 1, 0⟩]
      nextId := 3
      primaryKey := by decide
      uniqueNames := by decide
      identity := by simp
      one_le_nextId := by decide }
  inventory := items

/-- The table with an iron sword worn by player 1. -/
def ironSword : InventoryTable :=
  ⟨[⟨1, 0, 3, 1, true⟩], by decide⟩

/-- A user connects and logs in. -/
def logIn (session : Nat) (name : String) : List (Label initCollisionTile) :=
  [.accept, .receive session (.userLoginReq name ""), .run invalidZoneId .steady, .database 0 {} true,
    .run 0 .steady]

/-- A timer event becomes a task, and the thread of zone 0 runs it. -/
def fireAndRun (index : Nat) : List (Label initCollisionTile) :=
  [.fire index, .run 0 .steady]

/-- The second player watches how a monster kills the first one, who comes
back. -/
def comeback : List (Label initCollisionTile) :=
  logIn 1 "kim" ++ logIn 2 "lee" ++ fireAndRun 1 ++ fireAndRun 2 ++
    (List.replicate 33 (fireAndRun 3)).flatten ++ fireAndRun 3

/-- A user with a sword dies and comes back near one who knows it. -/
theorem weapons_shown_sample :
    ∃ server, run step comeback (boot 1 World.steadyDraw (pairStore ironSword)) = some server ∧
      WeaponsShown initCollisionTile 0 server.world := by
  have completes :
      (run step comeback (boot 1 World.steadyDraw (pairStore ironSword))).isSome := by
    decide +kernel
  obtain ⟨server, ran⟩ := Option.isSome_iff_exists.mp completes
  exact ⟨server, ran, weapons_shown (by decide) (by decide +kernel)
    (along_of_check (by decide +kernel)) ran⟩

/-- The second player arrives after the death. -/
def lateArrival : List (Label initCollisionTile) :=
  logIn 1 "kim" ++ fireAndRun 1 ++ fireAndRun 1 ++ (List.replicate 33 (fireAndRun 2)).flatten ++
    logIn 2 "lee" ++ fireAndRun 2

/-- Both players log in, the first with two worn swords, which then change
places. -/
def twoSwords : List (Label initCollisionTile) :=
  logIn 1 "kim" ++ logIn 2 "lee" ++ [.receive 1 (.itemSwapReq 0 1), .run 0 .steady]

/-- The second client does not show the weapon of the first player, who is
alive and in view. -/
def hidesWeapon (choice : Choice grid) (world : World) : Bool :=
  (world.getUser (ObjID.user 1)).any fun found =>
    !found.2.stat.dead ∧
      ObjID.user 1 ∈ world.collectSubjects 0 choice (ObjID.user 2) ∧
        (clientPlayers 2 world).weaponOf (ObjID.user 1) ≠
          some (found.2.inventory.getEquippedItemId choice.slots)

theorem not_weaponsShown {choice : Choice grid} (hides : hidesWeapon choice world = true) :
    ¬WeaponsShown grid 0 world := by
  intro shown
  obtain ⟨⟨player, user⟩, found, facts⟩ := (Option.any_eq_true _ _).mp hides
  obtain ⟨alive, member, differs⟩ := of_decide_eq_true facts
  rw [Bool.not_eq_true'] at alive
  exact differs (shown choice 2 1 player user found alive member)

/-- Whoever meets a respawned player for the first time sees it unarmed; and of
two worn swords the client keeps the one it was told, while the server finds the
other one first after they have changed places. -/
theorem respawn_hides_weapon :
    (∃ server, (∀ label ∈ lateArrival, label.isWithin 0 = true) ∧
      run step lateArrival (boot 1 World.steadyDraw (pairStore ironSword)) = some server ∧
        ¬WeaponsShown initCollisionTile 0 server.world) ∧
    ∃ server, (∀ label ∈ twoSwords, label.isWithin 0 = true) ∧
      run step twoSwords (boot 1 World.steadyDraw
        (pairStore ⟨[⟨1, 0, 3, 1, true⟩, ⟨1, 1, 4, 1, true⟩], by decide⟩)) = some server ∧
        ¬WeaponsShown initCollisionTile 0 server.world := by
  constructor
  · have hides : (run step lateArrival (boot 1 World.steadyDraw (pairStore ironSword))).any
        (fun server => hidesWeapon Choice.steady server.world) = true := by decide +kernel
    obtain ⟨server, ran, hidden⟩ := (Option.any_eq_true _ _).mp hides
    exact ⟨server, by decide +kernel, ran, not_weaponsShown hidden⟩
  · have hides : (run step twoSwords (boot 1 World.steadyDraw
        (pairStore ⟨[⟨1, 0, 3, 1, true⟩, ⟨1, 1, 4, 1, true⟩], by decide⟩))).any
        (fun server => hidesWeapon Choice.steady server.world) = true := by decide +kernel
    obtain ⟨server, ran, hidden⟩ := (Option.any_eq_true _ _).mp hides
    exact ⟨server, by decide +kernel, ran, not_weaponsShown hidden⟩

end Server

end Mmorpg
