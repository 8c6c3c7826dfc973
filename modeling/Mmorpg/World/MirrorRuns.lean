import Mmorpg.Item.AttackPower
import Mmorpg.World.Mirror

/-!
# The mirrors of a running server

Every task and every other step of the server keeps all clients in step with
the inventories of their users.
-/

namespace Mmorpg

open ZoneLayout Transition

variable {grid : CollisionGrid}

namespace Inventory

/-- Loading any rows files listed items under valid keys. -/
theorem loadRow_typed {inventory : Inventory} (info : DbItemInfo)
    (typed : inventory.slots.All Item.Typed) : (inventory.loadRow info).slots.All Item.Typed := by
  rw [loadRow_slots]
  split
  · exact typed.update info.slotIndex fun item loaded => (loadedItem_eq_some loaded).2.2.1
  · exact typed

theorem foldl_loadRow_typed (items : List DbItemInfo) (inventory : Inventory)
    (typed : inventory.slots.All Item.Typed) :
    (items.foldl loadRow inventory).slots.All Item.Typed := by
  induction items generalizing inventory with
  | nil => exact typed
  | cons info rest ih => exact ih _ (loadRow_typed info typed)

end Inventory

theorem length_le_of_valid {indices : List SlotIndex} (nodup : indices.Nodup)
    (valid : ∀ index ∈ indices, isValidSlotIndex index = true) :
    indices.length ≤ maxInventorySlots := by
  have listed : ∀ index ∈ indices, index ∈ slotIndices := by
    intro index member
    rw [mem_slotIndices_iff]
    simpa [isValidSlotIndex] using valid index member
  calc
    indices.length ≤ slotIndices.length :=
      (List.subperm_of_subset nodup listed).length_le
    _ = maxInventorySlots := by rw [slotIndices, List.length_map, List.length_range]

namespace World

variable {zone session thread : Nat} {choice : Choice grid} {world after : World}

/-- The list a login sends shows the whole inventory. -/
theorem processPacket_itemListPacket (order : SlotOrder) {inventory : Inventory}
    (keys : inventory.slots.KeysValid) (mirror : ClientInventory) :
    ClientInventory.ShowsBut [] (mirror.processPacket (itemListPacket order inventory))
      inventory.slots := by
  have members : ∀ index, index ∈ order.order inventory.slots ↔ (inventory.slots index).isSome :=
    order.mem_iff inventory.slots keys
  have short : (order.order inventory.slots).length ≤ maxInventorySlots :=
    length_le_of_valid (order.nodup inventory.slots) fun index member =>
      keys index ((members index).mp member)
  have whole : mirror.processPacket (itemListPacket order inventory) =
      ((order.order inventory.slots).map fun index =>
        fillItemSlotData index (inventory.slots index)).foldl ClientInventory.applyInventorySlot
          .blank := by
    rw [itemListPacket, ClientInventory.processPacket, List.take_of_length_le short,
      List.take_of_length_le (by rwa [List.length_map])]
    rfl
  rw [whole]
  apply ClientInventory.ShowsBut.announceAll
  apply ClientInventory.showsBut_blank
  intro index unlisted
  exact Option.not_isSome_iff_eq_none.mp fun occupied => unlisted ((members index).mpr occupied)

/-! ## Logging in and out -/

/-- A published user has its slots and counts as in the game. -/
theorem stock_publishUser {subject : Subject} (alloc : world.sessionState session = .stAlloc)
    (other : Nat) :
    (world.publishUser session subject).stock other =
      if other = session then ⟨subject.slots, (world.stock other).mirror, .stIngame⟩
      else world.stock other := by
  split
  · next same =>
    subst same
    refine Stock.ext ?_ rfl ?_
    · simp [stock, publishUser, insertObject, modifySession]
    · simp only [stock, sessionState, publishUser, insertObject, modifySession,
        Function.update_self]
      cases found : world.sessions other with
      | none => simp [sessionState, found] at alloc
      | some record => rfl
  · next different =>
    refine Stock.ext ?_ rfl ?_
    · have apart : ObjID.user other ≠ ObjID.user session := fun same =>
        different (ObjID.user_inj.mp same)
      simp [stock, publishUser, insertObject, modifySession, Function.update_of_ne apart]
    · simp [stock, sessionState, publishUser, insertObject, modifySession,
        Function.update_of_ne different]

theorem stock_placeLoadedUser {userInfo : DbUserInfo} (other : Nat) :
    (world.placeLoadedUser zone choice session userInfo).stock other = world.stock other := by
  unfold placeLoadedUser
  dsimp only
  split
  · exact stock_updatePosition
  · split
    · exact stock_updatePosition
    · rw [queueUserSave, stock_requestDb, stock_updatePosition]

/-- The end of a login shows the inventory to its owner, when it lists it. -/
theorem finishLogin_synced {slots : Slots} (withItems : Bool)
    (before : ∀ other, other ≠ session → (world.stock other).Synced)
    (holds : (world.stock session).slots = some slots) (keys : slots.KeysValid)
    (typed : slots.All Item.Typed) (ingame : (world.stock session).state = .stIngame)
    (shown : withItems = false → (world.stock session).mirror.ShowsBut [] slots) (other : Nat) :
    ((world.finishLogin zone choice session withItems).stock other).Synced := by
  obtain ⟨client, user, found, rfl⟩ := stock_slots_eq_some.mp holds
  rw [finishLogin, found]
  dsimp only
  rw [stock_notifyPlayerEnteredWorld, stock_scheduleAfter]
  have greeted : ∀ other, (world.send (ObjID.user session)
      (loginAckPacket (ObjID.user session) client user.stat)).stock other = world.stock other :=
    fun _ => stock_send rfl
  cases withItems with
  | false =>
      simp only [Bool.false_eq_true, if_false]
      rw [greeted]
      by_cases same : other = session
      · subst same
        exact Stock.synced_of_ingame holds (shown rfl) keys typed ingame
      · exact before other same
  | true =>
      simp only [if_true]
      have listed : Reports session user.inventory
          [itemListPacket choice.slots user.inventory] world
          ((world.send (ObjID.user session)
            (loginAckPacket (ObjID.user session) client user.stat)).send (ObjID.user session)
              (itemListPacket choice.slots user.inventory)) := by
        have still : Reports session user.inventory [] world world :=
          ⟨fun _ _ => rfl, holds, rfl, rfl⟩
        exact (still.followedBy greeted).send _
      by_cases same : other = session
      · subst same
        refine Stock.synced_of_ingame listed.slots ?_ keys typed (listed.state.trans ingame)
        rw [listed.mirror]
        exact processPacket_itemListPacket choice.slots keys (world.stock other).mirror
      · rw [listed.other other same]
        exact before other same

/-- Both kinds of login end in step. -/
theorem login_synced {subject : Subject} {placed : World} {slots : Slots} (withItems : Bool)
    (alloc : world.sessionState session = .stAlloc)
    (synced : ∀ other, (world.stock other).Synced)
    (same : ∀ other, placed.stock other = (world.publishUser session subject).stock other)
    (holds : subject.slots = some slots) (keys : slots.KeysValid) (typed : slots.All Item.Typed)
    (shown : withItems = false → ClientInventory.blank.ShowsBut [] slots) (other : Nat) :
    ((placed.finishLogin zone choice session withItems).stock other).Synced := by
  have blank : (world.stock session).mirror = .blank := by
    apply (synced session).blank
    rw [show (world.stock session).state = _ from alloc]
    decide
  have published : placed.stock session =
      ⟨some slots, .blank, .stIngame⟩ := by
    rw [same, stock_publishUser alloc, if_pos rfl, blank, holds]
  refine finishLogin_synced withItems ?_ (by rw [published]) keys typed (by rw [published]) ?_ other
  · intro different apart
    rw [same, stock_publishUser alloc, if_neg apart]
    exact synced different
  · intro bare
    rw [published]
    exact shown bare

theorem stock_leaveWorld {clientId : ObjID} {client : Subject} (other : Nat) :
    (world.leaveWorld zone choice clientId client).stock other =
      { world.stock other with
        slots := if clientId = ObjID.user other then none else (world.stock other).slots } := by
  unfold leaveWorld
  dsimp only
  rw [stock_removeObjectZone]
  have left : ((((world.sendAll ((world.viewers choice.hash zone client).filter fun id =>
      id ≠ clientId) (.subjectRemoveNfy clientId)).removeObject zone clientId
        client.transform).saveUserInfo choice clientId).stock other) = world.stock other := by
    rw [stock_saveUserInfo, stock_removeObject, stock_sendAll]
    exact rfl
  rw [← left]
  refine Stock.ext ?_ rfl rfl
  simp only [stock, deleteObject, Function.update_apply, eq_comm]
  split <;> rfl

/-! ## Tasks -/

theorem Attends.synced (attends : Attends session world after)
    (synced : ∀ other, (world.stock other).Synced) (other : Nat) : (after.stock other).Synced := by
  cases attends with
  | idle same => exact same other ▸ synced other
  | reports found ingame announced reports => exact reports.synced found ingame announced synced other

/-- The requests that are not about items. -/
theorem moveRequest_stock {direction : Int}
    (ran : world.moveRequest thread choice session direction = some after) (other : Nat) :
    after.stock other = world.stock other := by
  unfold moveRequest at ran
  split at ran
  · rw [Option.some.inj ran]
  · split at ran
    · rw [Option.some.inj ran]
    · split at ran
      · dsimp only at ran
        rw [onSector_eq_some] at ran
        rw [← Option.some.inj ran.2, stock_handlePlayerMove, stock_modify, stock_modifyUser]
        · exact fun _ => rfl
        · intro subject
          unfold faceDirection
          split
          · rfl
          · split <;> rfl
      · rw [Option.some.inj ran]

theorem teleportRequest_stock {x y : Int}
    (ran : world.teleportRequest thread choice session x y = some after) (other : Nat) :
    after.stock other = world.stock other := by
  unfold teleportRequest at ran
  split at ran
  · rw [Option.some.inj ran]
  · split at ran
    · rw [Option.some.inj ran]
    · rw [onSector_eq_some] at ran
      rw [← Option.some.inj ran.2, stock_handlePlayerMove]

theorem attackRequest_stock {facing : UInt8}
    (ran : world.attackRequest thread choice session facing = some after) (other : Nat) :
    after.stock other = world.stock other := by
  unfold attackRequest at ran
  split at ran
  · rw [Option.some.inj ran]
  · split at ran
    · dsimp only at ran
      rw [onSector_eq_some] at ran
      rw [stock_handleAttack ran.2, stock_modify, stock_modifyUser]
      · exact fun _ => rfl
      · exact fun _ => rfl
    · rw [Option.some.inj ran]

theorem skillRequest_stock (ran : world.skillRequest thread choice session = some after)
    (other : Nat) : after.stock other = world.stock other := by
  unfold skillRequest at ran
  split at ran
  · rw [Option.some.inj ran]
  · split at ran
    · dsimp only at ran
      rw [onSector_eq_some] at ran
      rw [stock_skillAttack ran.2, stock_modifyUser]
      exact fun _ => rfl
    · rw [Option.some.inj ran]

theorem chatRequest_stock {mess : String}
    (ran : world.chatRequest thread choice session mess = some after) (other : Nat) :
    after.stock other = world.stock other := by
  unfold chatRequest at ran
  split at ran
  · rw [Option.some.inj ran]
  · split at ran
    · rw [Option.some.inj ran]
    · rw [onSector_eq_some] at ran
      rw [← Option.some.inj ran.2, stock_broadcastChat]

theorem loginRequest_stock {name password : String}
    (ran : world.loginRequest session name password = some after) (other : Nat) :
    after.stock other = world.stock other := by
  unfold loginRequest at ran
  split at ran
  · rw [Option.some.inj ran]
  · rw [← Option.some.inj ran, stock_requestDb]

/-- Every request attends to the client that made it. -/
theorem dispatch_attends {packet : ClientPacket}
    (ran : world.dispatch thread choice session packet = some after) :
    Attends session world after := by
  cases packet with
  | userLoginReq name password => exact .idle (loginRequest_stock ran)
  | userMoveReq direction => exact .idle (moveRequest_stock ran)
  | userAttackReq facing => exact .idle (attackRequest_stock ran)
  | userSkillReq => exact .idle (skillRequest_stock ran)
  | userTeleportReq x y => exact .idle (teleportRequest_stock ran)
  | itemEquipReq index => exact equipRequest_attends ran
  | itemUnequipReq index => exact unequipRequest_attends ran
  | itemSwapReq indexA indexB => exact swapRequest_attends ran
  | itemDiscardReq index count => exact discardRequest_attends ran
  | itemPickupReq => exact pickupRequest_attends ran
  | itemUseReq index => exact useRequest_attends ran
  | csChat mess => exact .idle (chatRequest_stock ran)

theorem timerTask_stock {event : TimerEventType} {subjectId targetId : ObjID}
    (ran : world.timerTask thread choice event subjectId targetId = some after) (other : Nat) :
    after.stock other = world.stock other := by
  cases event with
  | evHeal => rw [← Option.some.inj ran, stock_handleHeal]
  | evItemLootPriorityExpire =>
      rw [← Option.some.inj ran, handleLootPriorityExpire, stock_modifyItem]
  | evUserRespawn =>
      rcases ifRegistered_eq_some.mp ran with ⟨_, rfl⟩ | ⟨_, _, rfl⟩
      · rfl
      · exact stock_handleUserRespawn
  | evMonsterAttackToUser =>
      rcases ifRegistered_eq_some.mp ran with ⟨_, rfl⟩ | ⟨_, _, rfl⟩
      · rfl
      · exact stock_handleAttackToPlayer
  | evRandomMove =>
      rcases ifRegistered_eq_some.mp ran with ⟨_, rfl⟩ | ⟨_, _, rfl⟩
      · rfl
      · exact stock_handleRandomMove
  | evMonsterRespawn =>
      rcases ifRegistered_eq_some.mp ran with ⟨_, rfl⟩ | ⟨_, _, rfl⟩
      · rfl
      · exact stock_handleMonsterRespawn
  | evAggroMove =>
      rcases ifRegistered_eq_some.mp ran with ⟨_, rfl⟩ | ⟨_, _, rfl⟩
      · rfl
      · exact stock_handleAggroMove
  | evItemDespawn =>
      rcases ifRegistered_eq_some.mp ran with ⟨_, rfl⟩ | ⟨_, _, rfl⟩
      · rfl
      · exact stock_handleDespawn

theorem handleGetUserInfo_synced {userInfo : DbUserInfo} {items : List DbItemInfo}
    (synced : ∀ other, (world.stock other).Synced) (other : Nat) :
    ((world.handleGetUserInfo zone choice session userInfo items).stock other).Synced := by
  unfold handleGetUserInfo
  dsimp only
  split
  · exact synced other
  · next alloc =>
    split
    · exact synced other
    · apply login_synced true (not_not.mp alloc) synced (fun _ => stock_placeLoadedUser _) rfl
      · exact Inventory.foldl_loadRow_keysValid items _ (fun _ impossible => by cases impossible)
      · exact Inventory.foldl_loadRow_typed items _ (fun _ _ impossible => by cases impossible)
      · exact fun impossible => by cases impossible

theorem handleAddUserInfo_synced {userInfo : DbUserInfo}
    (synced : ∀ other, (world.stock other).Synced) (other : Nat) :
    ((world.handleAddUserInfo zone choice session userInfo).stock other).Synced := by
  unfold handleAddUserInfo
  dsimp only
  split
  · exact synced other
  · next alloc =>
    split
    · exact synced other
    · apply login_synced false (not_not.mp alloc) synced (fun _ => stock_updatePosition) rfl
      · exact fun _ impossible => by cases impossible
      · exact fun _ _ impossible => by cases impossible
      · exact fun _ => ClientInventory.showsBut_blank fun _ _ => rfl

theorem disconnect_synced {clientId : ObjID}
    (ran : world.disconnect thread choice clientId = some after)
    (synced : ∀ other, (world.stock other).Synced) (other : Nat) : (after.stock other).Synced := by
  unfold disconnect at ran
  split at ran
  · exact Option.some.inj ran ▸ synced other
  · split at ran
    · rw [← Option.some.inj ran, stock_enqueueByZone]
      exact synced other
    · rw [onSector_eq_some] at ran
      rw [← Option.some.inj ran.2, stock_leaveWorld]
      apply (synced other).gone
      intro content found
      split at found
      · contradiction
      · exact found

/-- A task keeps every client in step. -/
theorem exec_synced {task : Task} (ran : world.exec thread choice task = some after)
    (synced : ∀ other, (world.stock other).Synced) (other : Nat) : (after.stock other).Synced := by
  cases task with
  | dispatch session packet => exact (dispatch_attends ran).synced synced other
  | closeSession session => exact Option.some.inj ran ▸ synced other
  | disconnect clientId => exact disconnect_synced ran synced other
  | enterZone playerId x y =>
      rcases ifRegistered_eq_some.mp ran with ⟨_, rfl⟩ | ⟨_, _, rfl⟩
      · exact synced other
      · rw [stock_handleEnterZone]
        exact synced other
  | getUserInfo session userInfo items =>
      rw [exec] at ran
      split at ran
      · exact Option.some.inj ran ▸ synced other
      · rw [onSector_eq_some] at ran
        exact Option.some.inj ran.2 ▸ handleGetUserInfo_synced synced other
  | addUserInfo session userInfo =>
      rw [exec] at ran
      split at ran
      · exact Option.some.inj ran ▸ synced other
      · rw [onSector_eq_some] at ran
        exact Option.some.inj ran.2 ▸ handleAddUserInfo_synced synced other
  | timer event subjectId targetId =>
      rw [timerTask_stock ran]
      exact synced other

/-! ## The start -/

theorem stock_initMonster {draw : Nat → Int × Int} {index : Nat} (other : Nat) :
    (world.initMonster zone draw index).stock other = world.stock other := by
  have monsterly : ObjID.monster (monsterIdStart + index) ≠ ObjID.user other := by
    intro same
    have categories := congrArg ObjID.category same
    rw [ObjID.monster_category, ObjID.user_category] at categories
    contradiction
  unfold initMonster
  dsimp only
  rw [modifyMonster, stock_modify, stock_updatePosition]
  · exact stock_update rfl fun same => absurd same monsterly
  · intro subject
    split
    · next monster bodyOf => rw [Subject.slots, Subject.slots, bodyOf]
    · rfl

theorem boot_stock (count : Nat) (draw : Nat → Int × Int) (session : Nat) :
    (boot count draw).stock session = ⟨none, .blank, .stFree⟩ := by
  apply boot_invariant (fun _ world => world.stock session = ⟨none, .blank, .stFree⟩)
  · exact rfl
  · exact fun _ _ _ _ _ before => (stock_initMonster session).trans before

end World

namespace Server

open World

variable {collate : String → String}

/-- Queues, timers and requests change no stock. -/
theorem step_stock {label : Label grid} {before after : Server collate}
    (taken : step label before = some after) (accepts : label ≠ .accept)
    (noTask : ∀ thread choice, label ≠ .run thread choice) (session : Nat) :
    after.world.stock session = before.world.stock session := by
  cases label with
  | accept => exact absurd rfl accepts
  | receive sender packet =>
      simp only [step, receive] at taken
      split at taken
      · rw [← Option.some.inj taken]
        exact stock_congr rfl rfl rfl
      · contradiction
  | hangUp sender =>
      simp only [step, hangUp] at taken
      split at taken
      · split at taken
        · rw [← Option.some.inj taken]
          exact stock_congr rfl rfl rfl
        · rw [← Option.some.inj taken]
          exact stock_congr rfl rfl rfl
      · contradiction
  | fire index =>
      simp only [step, fire] at taken
      split at taken
      · contradiction
      · rw [← Option.some.inj taken]
        dsimp only
        rw [dispatchTimer_eq]
        exact stock_congr rfl rfl rfl
  | database index calls written =>
      simp only [step, database] at taken
      split at taken
      · contradiction
      · split at taken
        · rw [← Option.some.inj taken]
          unfold handOver
          split
          · exact stock_congr rfl rfl rfl
          · refine (stock_post ?_).trans (stock_congr rfl rfl rfl)
            intro entry member
            rw [List.mem_singleton.mp member]
            exact rfl
          · exact stock_congr rfl rfl rfl
          · exact stock_congr rfl rfl rfl
        · rw [← Option.some.inj taken]
          split <;> exact stock_congr rfl rfl rfl
  | run thread choice => exact absurd rfl (noTask thread choice)

/-- A new session has received nothing, as it did not exist. -/
theorem accept_synced {before after : Server collate} (taken : before.accept = some after)
    (mapped : Mapped before.world) (synced : ∀ session, (before.world.stock session).Synced)
    (session : Nat) : (after.world.stock session).Synced := by
  unfold accept at taken
  dsimp only at taken
  split at taken
  · rw [← Option.some.inj taken]
    by_cases fresh : session = before.world.nextObjectId
    · have unused := mapped.fresh session fresh.ge
      have outside : (before.world.stock session).state ≠ .stIngame := by
        simp [stock, sessionState, unused]
      exact
        { shown := (synced session).shown
          keys := (synced session).keys
          typed := (synced session).typed
          blank := fun _ => (synced session).blank outside }
    · have same : stock session
          { before.world with
            sessions := Function.update before.world.sessions before.world.nextObjectId
              (some { state := .stAlloc })
            nextObjectId := before.world.nextObjectId + 1 } = before.world.stock session := by
        refine Stock.ext rfl rfl ?_
        simp [stock, sessionState, Function.update_of_ne fresh]
      exact same ▸ synced session
  · contradiction

theorem step_synced {label : Label grid} {before after : Server collate}
    (taken : step label before = some after) (mapped : Mapped before.world)
    (synced : ∀ session, (before.world.stock session).Synced) (session : Nat) :
    (after.world.stock session).Synced := by
  cases label with
  | accept => exact accept_synced taken mapped synced session
  | run thread choice =>
      simp only [step, runThread] at taken
      split at taken
      · contradiction
      · obtain ⟨world, ran, rfl⟩ := Option.map_eq_some_iff.mp taken
        exact exec_synced ran (fun other => synced other) session
  | receive sender packet =>
      rw [step_stock taken (by simp) (by simp)]
      exact synced session
  | hangUp sender =>
      rw [step_stock taken (by simp) (by simp)]
      exact synced session
  | fire index =>
      rw [step_stock taken (by simp) (by simp)]
      exact synced session
  | database index calls written =>
      rw [step_stock taken (by simp) (by simp)]
      exact synced session

theorem boot_synced (count : Nat) (draw : Nat → Int × Int) (session : Nat) :
    ((World.boot count draw).stock session).Synced := by
  rw [boot_stock]
  exact
    { shown := fun _ impossible => by cases impossible
      keys := fun _ impossible => by cases impossible
      typed := fun _ impossible => by cases impossible
      blank := fun _ => rfl }

/-- Every client is in step in every state. -/
theorem run_synced {count : Nat} {draw : Nat → Int × Int} {store : Store collate}
    {labels : List (Label grid)} {server : Server collate}
    (ran : run step labels (boot count draw store) = some server) (session : Nat) :
    (server.world.stock session).Synced := by
  have stepwise : ∀ (label : Label grid) (before after : Server collate),
      step label before = some after →
      Mapped before.world ∧ (∀ session, (before.world.stock session).Synced) →
      Mapped after.world ∧ ∀ session, (after.world.stock session).Synced :=
    fun _ _ _ taken both => ⟨step_mapped taken both.1, step_synced taken both.1 both.2⟩
  exact (invariant_of_run stepwise ran ⟨boot_mapped count draw, boot_synced count draw⟩).2 session

/-- Once everything posted to the owner is processed, its client shows the
slots of its user; and no answer to a request about them fails to find its
slot. -/
theorem inventory_mirrored {count : Nat} {draw : Nat → Int × Int} {store : Store collate}
    {labels : List (Label grid)} {server : Server collate}
    (ran : run step labels (boot count draw store) = some server)
    {session : Nat} {client : Subject} {user : User}
    (found : server.world.getUser (ObjID.user session) = some (client, user)) :
    (∀ index, isValidSlotIndex index = true →
      ((server.world.mirror session index).itemId = 0 ↔ user.inventory.slots index = none) ∧
      ∀ item, user.inventory.slots index = some item →
        (server.world.mirror session index).itemId = item.itemTableId ∧
        (server.world.mirror session index).count = item.count ∧
        (server.world.mirror session index).equipped = item.isEquipped) ∧
      user.inventory.LookupsHold := by
  have synced := run_synced ran session
  have held : (server.world.stock session).slots = some user.inventory.slots :=
    stock_slots_eq_some.mpr ⟨client, user, found, rfl⟩
  have shown := synced.shown _ held
  refine ⟨fun index valid => ⟨?_, ?_⟩, user.inventory.lookupsHold⟩
  · exact shown.itemId_eq_zero_iff (synced.typed _ held) valid
  · intro item stored
    have displays := shown index valid List.not_mem_nil
    rw [stored] at displays
    exact ⟨displays.itemId, displays.count, displays.equipped⟩

/-- A player logs in with a potion, moves it to another slot and drinks it. -/
def refreshment : List (Label initCollisionTile) :=
  [.accept, .receive 1 (.userLoginReq "kim" ""), .run invalidZoneId .steady, .database 0 {} true,
    .run 0 .steady, .receive 1 (.itemSwapReq 0 7), .run 0 .steady,
    .receive 1 (.itemUseReq 7), .run 0 .steady]

/-- A user drinks a potion. -/
theorem inventory_mirrored_sample :
    ∃ server client user,
      run step refreshment (boot 0 (fun _ => (9, 9)) World.savedStore) = some server ∧
      server.world.getUser (ObjID.user 1) = some (client, user) ∧
      (server.world.mirror 1 7).count = 4 ∧
      ((server.world.mirror 1 0).itemId = 0 ↔ user.inventory.slots 0 = none) := by
  have completes : (run step refreshment (boot 0 (fun _ => (9, 9)) World.savedStore)).isSome := by
    rfl
  obtain ⟨server, ran⟩ := Option.isSome_iff_exists.mp completes
  have plays : (server.world.getUser (ObjID.user 1)).isSome := by
    obtain rfl := Option.some.inj ran
    rfl
  obtain ⟨⟨client, user⟩, found⟩ := Option.isSome_iff_exists.mp plays
  refine ⟨server, client, user, ran, found, ?_, ((inventory_mirrored ran found).1 0 (by decide)).1⟩
  obtain rfl := Option.some.inj ran
  rfl

end Server

end Mmorpg
