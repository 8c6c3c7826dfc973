import Mmorpg.World.Boot
import Mmorpg.World.LoginFailure
import Mmorpg.World.Savings
import Mmorpg.World.ScriptTasks

/-!
# What each task does to the savings

The inversion of `exec`, as far as users and requests are concerned: a task
asks the database for a login, stores what an inventory operation left, takes a
user out of the world and saves it, lets a new one in, or touches nothing.
-/

namespace Mmorpg

open ZoneLayout

variable {grid : CollisionGrid}

/-- What an operation may leave: the old inventory, or the result of a
success. -/
def Inventory.Outcome (before after : Inventory) : Prop :=
  after = before ∨ ∃ batches, before.Succeeded after batches

/-- The savings after a user has stored an inventory. -/
def Savings.stored (id : ObjID) (inventory : Inventory) (savings : Savings) : Savings where
  belongings := Function.update savings.belongings id
    ((savings.belongings id).map fun belongings =>
      ⟨belongings.name, inventory.playerId, inventory.slots, []⟩)
  requests := savings.requests ++ inventory.issued.map .item

/-- The user a login task builds, with its session. -/
def Task.newcomer (order : SlotOrder) : Task → Option (Nat × Subject)
  | getUserInfo session userInfo items =>
      some (session, World.loadedUser order (ObjID.user session) userInfo items)
  | addUserInfo session userInfo => some (session, World.newUser (ObjID.user session) userInfo)
  | _ => none

namespace World

/-- Saving a user under its own name, with its own progress. -/
def Saves (name : String) (stat : Stat) (request : DBThread.DbRequest) : Prop :=
  ∃ id x y, request = .saveUser id name x y stat.level stat.exp

/-- What a task does to the savings: nothing, a login request, a change of one
inventory with its saves, a departure or an arrival. -/
inductive Turnover (choice : Choice grid) (before : World) : Task → World → Prop
  | idle {task : Task} {after : World} :
      after.savings = before.savings → Turnover choice before task after
  | asks {session : Nat} {name password : String} {after : World} :
      after.savings = (before.requestDb (.login session name password)).savings →
      Turnover choice before (.dispatch session (.userLoginReq name password)) after
  | stores {session : Nat} {packet : ClientPacket} {client : Subject} {user : User}
      {inventory : Inventory} {after : World} :
      before.getUser (ObjID.user session) = some (client, user) →
      user.inventory.Outcome inventory →
      after.savings = (before.setInventory (ObjID.user session) inventory).savings →
      Turnover choice before (.dispatch session packet) after
  | leaves {clientId : ObjID} {client : Subject} {user : User} (x y : Int) {after : World} :
      before.getUser clientId = some (client, user) →
      (isStandable grid client.x client.y = true → x = client.x ∧ y = client.y) →
      after.savings =
        { belongings := Function.update before.savings.belongings clientId none
          requests := before.dbRequests ++
            [.saveUser clientId client.name x y user.stat.level user.stat.exp] } →
      Turnover choice before (.disconnect clientId) after
  | enters {task : Task} {session : Nat} {subject : Subject} {user : User}
      (saves : List DBThread.DbRequest) {after : World} :
      task.newcomer choice.slots = some (session, subject) → subject.body = .user user →
      (∀ request ∈ saves, Saves subject.name user.stat request) →
      after.userOf (ObjID.user session) = some user →
      after.savings =
        { belongings := Function.update before.savings.belongings (ObjID.user session)
            subject.belongings
          requests := before.dbRequests ++ saves } →
      Turnover choice before task after

variable {zone thread session : Nat} {choice : Choice grid} {world before middle after : World}
  {client : Subject} {user : User} {inventory : Inventory} {index : SlotIndex}

/-! ## Storing -/

theorem setInventory_savings (id : ObjID) (inventory : Inventory) (world : World) :
    (world.setInventory id inventory).savings = world.savings.stored id inventory := by
  refine Savings.ext (funext fun other => ?_) rfl
  simp only [savings, belongings, Savings.stored, setInventory, modifyUser, modify,
    Function.update_apply]
  split
  · next here =>
    subst here
    cases world.objects other with
    | none => rfl
    | some subject =>
        rcases subject with ⟨name, transform, facing, body⟩
        cases body <;> rfl
  · rfl

/-- What was untouched up to storing is stored as well. -/
theorem savings_setInventory {id : ObjID} (same : middle.savings = before.savings) :
    (middle.setInventory id inventory).savings = (before.setInventory id inventory).savings := by
  rw [setInventory_savings, setInventory_savings, same]

theorem outcome_refl (inventory : Inventory) : inventory.Outcome inventory :=
  .inl rfl

theorem equipRequest_turnover
    (ran : world.equipRequest thread choice session index = some after) :
    Turnover choice world (.dispatch session (.itemEquipReq index)) after := by
  unfold equipRequest at ran
  split at ran
  · exact .idle (by rw [Option.some.inj ran])
  · next client user allowed =>
    obtain ⟨_, found, _⟩ := playing_eq_some.mp allowed
    have outcome : user.inventory.Outcome (user.inventory.tryEquip choice.slots index).2 := by
      rcases user.inventory.tryEquip_cases choice.slots index with failed | ⟨_, _, worn, succeeded⟩
      · rw [failed]
        exact outcome_refl _
      · rw [worn]
        exact .inr ⟨_, succeeded⟩
    apply Turnover.stores found outcome
    obtain ⟨slot, _, served⟩ := Option.bind_eq_some_iff.mp ran
    dsimp only at served
    split at served
    · rw [onSector_eq_some] at served
      obtain ⟨acquired, _, rfl⟩ := Option.map_eq_some_iff.mp served.2
      rw [savings_post, savings_broadcastEquipChange, savings_send]
    · rw [← Option.some.inj served, savings_send]

theorem unequipRequest_turnover
    (ran : world.unequipRequest thread choice session index = some after) :
    Turnover choice world (.dispatch session (.itemUnequipReq index)) after := by
  unfold unequipRequest at ran
  split at ran
  · exact .idle (by rw [Option.some.inj ran])
  · next client user allowed =>
    obtain ⟨_, found, _⟩ := playing_eq_some.mp allowed
    have outcome : user.inventory.Outcome (user.inventory.tryUnequip choice.slots index).2 := by
      rcases user.inventory.tryUnequip_cases choice.slots index with failed | ⟨_, bared, succeeded⟩
      · rw [failed]
        exact outcome_refl _
      · rw [bared]
        exact .inr ⟨_, succeeded⟩
    apply Turnover.stores found outcome
    obtain ⟨slot, _, served⟩ := Option.bind_eq_some_iff.mp ran
    dsimp only at served
    split at served
    · rw [onSector_eq_some] at served
      rw [← Option.some.inj served.2, savings_broadcastEquipChange, savings_send]
    · rw [← Option.some.inj served, savings_send]

theorem swapRequest_turnover {indexA indexB : SlotIndex}
    (ran : world.swapRequest session indexA indexB = some after) :
    Turnover choice world (.dispatch session (.itemSwapReq indexA indexB)) after := by
  unfold swapRequest at ran
  split at ran
  · exact .idle (by rw [Option.some.inj ran])
  · next client user allowed =>
    obtain ⟨_, found, _⟩ := playing_eq_some.mp allowed
    have outcome : user.inventory.Outcome (user.inventory.trySwapSlots indexA indexB).2 := by
      rcases user.inventory.trySwapSlots_cases indexA indexB with
        failed | ⟨_, swapped, _, succeeded⟩
      · rw [failed]
        exact outcome_refl _
      · rw [swapped]
        exact .inr ⟨_, succeeded⟩
    apply Turnover.stores found outcome
    rw [← Option.some.inj ran, savings_send]

theorem discardRequest_turnover {count : UInt16}
    (ran : world.discardRequest thread choice session index count = some after) :
    Turnover choice world (.dispatch session (.itemDiscardReq index count)) after := by
  unfold discardRequest at ran
  split at ran
  · exact .idle (by rw [Option.some.inj ran])
  · next client user allowed =>
    obtain ⟨_, found, _⟩ := playing_eq_some.mp allowed
    obtain ⟨⟨extracted, left⟩, taken, served⟩ := Option.bind_eq_some_iff.mp ran
    have outcome : user.inventory.Outcome left := by
      rcases user.inventory.tryExtractItem_cases choice.slots index count with
        failed | ⟨_, _, _, _, ⟨_, _, crashed⟩ | ⟨_, _, ran, _, _, _, _, succeeded⟩⟩
      · rw [failed] at taken
        cases taken
        exact outcome_refl _
      · rw [crashed] at taken
        contradiction
      · rw [ran] at taken
        cases taken
        exact .inr ⟨_, succeeded⟩
    apply Turnover.stores found outcome
    dsimp only at served
    split at served
    · rw [← Option.some.inj served, savings_send]
    · rw [onSector_eq_some] at served
      obtain ⟨spawned, spawns, rfl⟩ := Option.map_eq_some_iff.mp served.2
      rw [savings_send, savings_broadcastEquipChange, savings_spawnFieldItem spawns]

theorem useRequest_turnover (ran : world.useRequest choice session index = some after) :
    Turnover choice world (.dispatch session (.itemUseReq index)) after := by
  unfold useRequest at ran
  split at ran
  · exact .idle (by rw [Option.some.inj ran])
  · next client user allowed =>
    obtain ⟨_, found, _⟩ := playing_eq_some.mp allowed
    split at ran
    · obtain ⟨⟨success, left⟩, used, rfl⟩ := Option.map_eq_some_iff.mp ran
      have outcome : user.inventory.Outcome left := by
        rcases user.inventory.tryUseItem_cases index with
          failed | ⟨_, _, _, ⟨_, crashed⟩ | ⟨_, ran, _, succeeded⟩⟩
        · rw [failed] at used
          cases used
          exact outcome_refl _
        · rw [crashed] at used
          contradiction
        · rw [ran] at used
          cases used
          exact .inr ⟨_, succeeded⟩
      apply Turnover.stores found outcome
      dsimp only
      have stamped : (world.modifyUser (ObjID.user session) fun current =>
          { current with lastPotionUseTime := choice.now }).savings = world.savings :=
        savings_modifyUser (fun _ => rfl) (fun _ => rfl) fun _ => rfl
      rw [savings_send, ← savings_setInventory stamped]
      split <;> rfl
    · exact .idle (by rw [Option.some.inj ran])

theorem pickupRequest_turnover (ran : world.pickupRequest thread choice session = some after) :
    Turnover choice world (.dispatch session .itemPickupReq) after := by
  unfold pickupRequest at ran
  split at ran
  · exact .idle (by rw [Option.some.inj ran])
  · next client user allowed =>
    obtain ⟨_, found, _⟩ := playing_eq_some.mp allowed
    rw [onSector_eq_some] at ran
    have picked := ran.2
    unfold tryPickupAt at picked
    split at picked
    · exact .idle (by rw [← Option.some.inj picked, savings_send])
    · next itemId subject item target =>
      split at picked
      · contradiction
      · exact .idle (by rw [← Option.some.inj picked, savings_send, savings_send])
      · next touched filled added =>
        split at picked
        · contradiction
        · next acquired told =>
          apply Turnover.stores found (.inr ⟨_, Inventory.tryAddItem_succeeded added⟩)
          obtain ⟨isItem, category, _⟩ := pickupTarget_item target
          have onField : (world.setInventory (ObjID.user session) filled).getItem itemId =
              some (subject, item) := by
            have apart : itemId ≠ ObjID.user session := by
              rintro rfl
              contradiction
            rw [getItem_eq_some] at isItem ⊢
            simpa [setInventory, modifyUser, modify, Function.update_of_ne apart] using isItem
          rw [← Option.some.inj picked, savings_post, savings_send, savings_removeFieldItem onField]

/-! ## The other requests -/

theorem moveRequest_savings {direction : Int}
    (ran : world.moveRequest thread choice session direction = some after) :
    after.savings = world.savings := by
  unfold moveRequest at ran
  split at ran
  · rw [Option.some.inj ran]
  · split at ran
    · rw [Option.some.inj ran]
    · split at ran
      · dsimp only at ran
        rw [onSector_eq_some] at ran
        rw [← Option.some.inj ran.2, savings_handlePlayerMove, savings_modify]
        · exact savings_modifyUser (fun _ => rfl) (fun _ => rfl) fun _ => rfl
        · intro subject
          unfold faceDirection
          split
          · rfl
          · split <;> rfl
      · rw [Option.some.inj ran]

theorem teleportRequest_savings {x y : Int}
    (ran : world.teleportRequest thread choice session x y = some after) :
    after.savings = world.savings := by
  unfold teleportRequest at ran
  split at ran
  · rw [Option.some.inj ran]
  · split at ran
    · rw [Option.some.inj ran]
    · rw [onSector_eq_some] at ran
      rw [← Option.some.inj ran.2, savings_handlePlayerMove]

theorem attackRequest_savings {facing : UInt8}
    (ran : world.attackRequest thread choice session facing = some after) :
    after.savings = world.savings := by
  unfold attackRequest at ran
  split at ran
  · rw [Option.some.inj ran]
  · split at ran
    · dsimp only at ran
      rw [onSector_eq_some] at ran
      rw [savings_handleAttack ran.2, savings_modify]
      · exact savings_modifyUser (fun _ => rfl) (fun _ => rfl) fun _ => rfl
      · exact fun _ => rfl
    · rw [Option.some.inj ran]

theorem skillRequest_savings (ran : world.skillRequest thread choice session = some after) :
    after.savings = world.savings := by
  unfold skillRequest at ran
  split at ran
  · rw [Option.some.inj ran]
  · split at ran
    · dsimp only at ran
      rw [onSector_eq_some] at ran
      rw [savings_skillAttack ran.2]
      exact savings_modifyUser (fun _ => rfl) (fun _ => rfl) fun _ => rfl
    · rw [Option.some.inj ran]

theorem chatRequest_savings {mess : String}
    (ran : world.chatRequest thread choice session mess = some after) :
    after.savings = world.savings := by
  unfold chatRequest at ran
  split at ran
  · rw [Option.some.inj ran]
  · split at ran
    · rw [Option.some.inj ran]
    · rw [onSector_eq_some] at ran
      rw [← Option.some.inj ran.2, savings_broadcastChat]

theorem dispatch_turnover {packet : ClientPacket}
    (ran : world.dispatch thread choice session packet = some after) :
    Turnover choice world (.dispatch session packet) after := by
  cases packet with
  | userLoginReq name password =>
      unfold dispatch loginRequest at ran
      dsimp only at ran
      split at ran
      · exact .idle (by rw [Option.some.inj ran])
      · exact .asks (by rw [← Option.some.inj ran])
  | userMoveReq direction => exact .idle (moveRequest_savings ran)
  | userAttackReq facing => exact .idle (attackRequest_savings ran)
  | userSkillReq => exact .idle (skillRequest_savings ran)
  | userTeleportReq x y => exact .idle (teleportRequest_savings ran)
  | itemEquipReq index => exact equipRequest_turnover ran
  | itemUnequipReq index => exact unequipRequest_turnover ran
  | itemSwapReq indexA indexB => exact swapRequest_turnover ran
  | itemDiscardReq index count => exact discardRequest_turnover ran
  | itemPickupReq => exact pickupRequest_turnover ran
  | itemUseReq index => exact useRequest_turnover ran
  | csChat mess => exact .idle (chatRequest_savings ran)

/-! ## Coming and going -/

/-- A departing user is saved under its own name, on its tile if that is free. -/
theorem saveUserInfo_savings (choice : Choice grid) {id : ObjID}
    (found : world.getUser id = some (client, user)) :
    ∃ x y, (isStandable grid client.x client.y = true → x = client.x ∧ y = client.y) ∧
      world.saveUserInfo choice id =
        world.requestDb (.saveUser id client.name x y user.stat.level user.stat.exp) := by
  unfold saveUserInfo
  rw [found]
  dsimp only
  split
  · exact ⟨_, _, fun _ => ⟨rfl, rfl⟩, rfl⟩
  · next blocked => exact ⟨_, _, fun free => absurd free blocked, rfl⟩

theorem getUser_removeObject {id : ObjID} (found : world.getUser id = some (client, user))
    (transform : Transform) :
    ∃ hidden, (world.removeObject zone id transform).getUser id = some (hidden, user) ∧
      hidden.name = client.name ∧ hidden.x = client.x ∧ hidden.y = client.y := by
  rw [getUser_eq_some] at found
  have objects := (removeObject_removed zone id transform world).objects id
  rw [found.1] at objects
  split at objects
  · refine ⟨client.unplaced, getUser_eq_some.mpr ⟨objects, ?_⟩, rfl, rfl, rfl⟩
    exact found.2
  · exact ⟨client, getUser_eq_some.mpr ⟨objects, found.2⟩, rfl, rfl, rfl⟩

/-- A disconnect saves the player and lets it go. -/
theorem disconnect_turnover {clientId : ObjID}
    (ran : world.disconnect thread choice clientId = some after) :
    Turnover choice world (.disconnect clientId) after := by
  unfold disconnect at ran
  split at ran
  · exact .idle (by rw [Option.some.inj ran])
  · next client user found =>
    split at ran
    · exact .idle (by rw [← Option.some.inj ran, savings_enqueueByZone])
    · rw [onSector_eq_some] at ran
      rw [← Option.some.inj ran.2]
      unfold leaveWorld
      dsimp only
      have told : (world.sendAll ((world.viewers choice.hash thread client).filter fun id =>
          id ≠ clientId) (.subjectRemoveNfy clientId)).getUser clientId = some (client, user) :=
        found
      obtain ⟨hidden, stays, name, hiddenX, hiddenY⟩ :=
        getUser_removeObject told client.transform
      obtain ⟨x, y, onTile, saved⟩ := saveUserInfo_savings choice stays
      rw [hiddenX, hiddenY] at onTile
      rw [saved, name]
      refine Turnover.leaves x y found onTile (Savings.ext (funext fun other => ?_) ?_)
      · simp only [savings, belongings, removeObjectZone, deleteObject, requestDb,
          Function.update_apply]
        split
        · rfl
        · exact belongings_of_savings (savings_removeObject.trans savings_sendAll) other
      · exact congrArg (· ++ _) (congrArg Savings.requests
          (savings_removeObject.trans savings_sendAll))

/-- A published user is there with all it has. -/
theorem savings_publishUser (subject : Subject) :
    (world.publishUser session subject).savings =
      { belongings := Function.update world.savings.belongings (ObjID.user session)
          subject.belongings
        requests := world.dbRequests } := by
  refine Savings.ext (funext fun other => ?_) rfl
  simp only [savings, belongings, publishUser, modifySession, insertObject, Function.update_apply]
  split <;> rfl

theorem userOf_of_getUser {id : ObjID} (found : world.getUser id = some (client, user)) :
    world.userOf id = some user := by
  rw [getUser_eq_some] at found
  rw [userOf, found.1, Option.bind_some, Subject.asUser, found.2]

/-- Placing a user changes neither its name nor its user part. -/
theorem getUser_updatePosition {id : ObjID} {x y : Int} {placed : Subject} {placedUser : User}
    (found : world.getUser id = some (client, user))
    (moved : (world.updatePosition zone id x y).getUser id = some (placed, placedUser)) :
    placed.name = client.name ∧ placedUser = user := by
  have users : (world.updatePosition zone id x y).userOf id = world.userOf id :=
    updatePosition_users world id
  rw [userOf_of_getUser found, userOf_of_getUser moved, Option.some.injEq] at users
  have kept : (world.updatePosition zone id x y).belongings id = world.belongings id :=
    belongings_of_savings savings_updatePosition id
  rw [belongings_eq_some.mpr ⟨placed, placedUser, moved, rfl⟩,
    belongings_eq_some.mpr ⟨client, user, found, rfl⟩, Option.some.injEq] at kept
  exact ⟨congrArg Belongings.name kept, users⟩

/-- Placing a user may save it, and asks for nothing else. -/
theorem placeLoadedUser_savings (zone : Nat) (choice : Choice grid) (userInfo : DbUserInfo)
    (found : world.getUser (ObjID.user session) = some (client, user)) :
    ∃ saves, (∀ request ∈ saves, Saves client.name user.stat request) ∧
      (world.placeLoadedUser zone choice session userInfo).savings =
        { world.savings with requests := world.dbRequests ++ saves } := by
  have placed : ∀ x y, (world.updatePosition zone (ObjID.user session) x y).savings =
      { world.savings with requests := world.dbRequests ++ [] } := by
    intro x y
    rw [savings_updatePosition, List.append_nil]
    rfl
  unfold placeLoadedUser
  dsimp only
  split
  · exact ⟨[], fun _ member => absurd member List.not_mem_nil, placed _ _⟩
  · split
    · exact ⟨[], fun _ member => absurd member List.not_mem_nil, placed _ _⟩
    · next moved stays =>
      obtain ⟨name, rfl⟩ := getUser_updatePosition found stays
      rw [queueUserSave, name]
      refine ⟨[.saveUser (ObjID.user session) client.name choice.worldDraw.1 choice.worldDraw.2
        moved.stat.level moved.stat.exp], ?_, Savings.ext ?_ ?_⟩
      · intro request member
        exact List.mem_singleton.mp member ▸ ⟨_, _, _, rfl⟩
      · exact (congrArg Savings.belongings savings_updatePosition :)
      · exact (congrArg (· ++ _) (congrArg Savings.requests savings_updatePosition) :)

/-- The user a login task builds enters the world. -/
theorem enters_turnover {task : Task} {subject : Subject} (saves : List DBThread.DbRequest)
    {placed : World} {withItems : Bool}
    (new : task.newcomer choice.slots = some (session, subject)) (bodyOf : subject.body = .user user)
    (named : ∀ request ∈ saves, Saves subject.name user.stat request)
    (users : SameUsers (world.publishUser session subject) placed)
    (saved : placed.savings =
      { (world.publishUser session subject).savings with requests := world.dbRequests ++ saves }) :
    Turnover choice world task (placed.finishLogin zone choice session withItems) := by
  refine .enters saves new bodyOf named ?_ ?_
  · rw [finishLogin_users, users, publishUser_userOf, Subject.asUser, bodyOf]
  · rw [savings_finishLogin, saved, savings_publishUser]

theorem handleGetUserInfo_turnover {userInfo : DbUserInfo} {items : List DbItemInfo} :
    Turnover choice world (.getUserInfo session userInfo items)
      (world.handleGetUserInfo thread choice session userInfo items) := by
  unfold handleGetUserInfo
  dsimp only
  split
  · exact .idle rfl
  · split
    · exact .idle rfl
    · obtain ⟨user, published⟩ := getUser_publishUser session
        (isNewUser_loadedUser choice.slots (ObjID.user session) userInfo items) world
      obtain ⟨saves, named, saved⟩ := placeLoadedUser_savings thread choice userInfo published
      exact enters_turnover saves rfl (getUser_eq_some.mp published).2 named (placeLoadedUser_users _) saved

theorem handleAddUserInfo_turnover {userInfo : DbUserInfo} :
    Turnover choice world (.addUserInfo session userInfo)
      (world.handleAddUserInfo thread choice session userInfo) := by
  unfold handleAddUserInfo
  dsimp only
  split
  · exact .idle rfl
  · split
    · exact .idle rfl
    · refine enters_turnover [] rfl rfl (fun _ member => absurd member List.not_mem_nil)
        (updatePosition_users _) ?_
      rw [getRandomPosition, savings_updatePosition, List.append_nil]
      rfl

/-! ## Timers -/

/-- Timer events change nothing that is owned. -/
theorem timerTask_savings {event : TimerEventType} {subjectId targetId : ObjID}
    (ran : world.timerTask thread choice event subjectId targetId = some after) :
    after.savings = world.savings := by
  cases event with
  | evHeal => rw [← Option.some.inj ran, savings_handleHeal]
  | evItemLootPriorityExpire =>
      rw [← Option.some.inj ran, handleLootPriorityExpire, savings_modifyItem]
  | evUserRespawn =>
      rcases ifRegistered_eq_some.mp ran with ⟨_, rfl⟩ | ⟨_, _, rfl⟩
      · rfl
      · exact savings_handleUserRespawn
  | evMonsterAttackToUser =>
      rcases ifRegistered_eq_some.mp ran with ⟨_, rfl⟩ | ⟨_, _, rfl⟩
      · rfl
      · exact savings_handleAttackToPlayer
  | evRandomMove =>
      rcases ifRegistered_eq_some.mp ran with ⟨_, rfl⟩ | ⟨_, _, rfl⟩
      · rfl
      · exact savings_handleRandomMove
  | evMonsterRespawn =>
      rcases ifRegistered_eq_some.mp ran with ⟨_, rfl⟩ | ⟨_, _, rfl⟩
      · rfl
      · exact savings_handleMonsterRespawn
  | evAggroMove =>
      rcases ifRegistered_eq_some.mp ran with ⟨_, rfl⟩ | ⟨_, _, rfl⟩
      · rfl
      · exact savings_handleAggroMove
  | evItemDespawn =>
      rcases ifRegistered_eq_some.mp ran with ⟨_, rfl⟩ | ⟨_, _, rfl⟩
      · rfl
      · exact savings_handleDespawn

theorem exec_turnover {task : Task} (ran : world.exec thread choice task = some after) :
    Turnover choice world task after := by
  cases task with
  | dispatch session packet => exact dispatch_turnover ran
  | closeSession session => exact .idle (by rw [Option.some.inj ran])
  | disconnect clientId => exact disconnect_turnover ran
  | enterZone playerId x y =>
      rcases ifRegistered_eq_some.mp ran with ⟨_, rfl⟩ | ⟨_, _, rfl⟩
      · exact .idle rfl
      · exact .idle savings_handleEnterZone
  | getUserInfo session userInfo items =>
      rw [exec] at ran
      split at ran
      · exact .idle (by rw [Option.some.inj ran])
      · rw [onSector_eq_some] at ran
        exact Option.some.inj ran.2 ▸ handleGetUserInfo_turnover
  | addUserInfo session userInfo =>
      rw [exec] at ran
      split at ran
      · exact .idle (by rw [Option.some.inj ran])
      · rw [onSector_eq_some] at ran
        exact Option.some.inj ran.2 ▸ handleAddUserInfo_turnover
  | timer event subjectId targetId => exact .idle (timerTask_savings ran)

/-! ## The start -/

theorem savings_initMonster {draw : Nat → Int × Int} {index : Nat}
    (absent : world.belongings (ObjID.monster (monsterIdStart + index)) = none) :
    (world.initMonster zone draw index).savings = world.savings := by
  unfold initMonster
  dsimp only
  rw [savings_modifyMonster, savings_updatePosition]
  exact savings_objects absent.symm

theorem boot_savings (count : Nat) (draw : Nat → Int × Int) :
    (boot count draw).savings = ⟨fun _ => none, []⟩ := by
  apply boot_invariant (fun _ world => world.savings = ⟨fun _ => none, []⟩)
  · rfl
  · intro zone index _ world _ before
    rw [savings_initMonster, before]
    exact congrFun (congrArg Savings.belongings before) _

end World

end Mmorpg
