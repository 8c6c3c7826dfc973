import Mmorpg.World.Aside

/-!
# Tasks that leave the users aside

Monster steps, monster deaths and respawns, field items and inventory
requests, one lemma each.
-/

namespace Mmorpg

open ZoneLayout

variable {grid : CollisionGrid}

namespace World

variable {zone : Nat} {choice : Choice grid} {world : World}

/-! ## Monsters -/

theorem aStarMove_aside (filed : Filed world) (monsterId : ObjID) (nextX nextY : Int) :
    Aside world (world.aStarMove zone choice monsterId nextX nextY) := by
  unfold aStarMove
  split
  · exact Aside.refl world
  · next found =>
    have nobody := personOf_of_monster found
    have category : monsterId.category ≠ .eUser := by
      rw [filed.monster found]
      decide
    dsimp only
    apply Aside.modifyMonster
    apply Aside.thenQuiet (Aside.updatePosition nobody category (Aside.refl world))
    show Quiet Any zone monsterId _ _
    exact replace_quiet (Quiet.refl _)

theorem moveMonsterStep_aside (filed : Filed world) (monsterId : ObjID) (subject : Subject)
    (next : Int × Int) :
    Aside world (world.moveMonsterStep zone choice monsterId subject next) := by
  unfold moveMonsterStep
  have turned : Aside world (world.modify monsterId (Subject.updateFacing (next.1 - subject.x))) :=
    (Aside.refl world).modify (fun _ _ => rfl) (fun _ => rfl)
  exact turned.trans (aStarMove_aside (turned.filed filed) monsterId _ _)

theorem handleRandomMove_aside (filed : Filed world) (monsterId : ObjID) :
    Aside world (world.handleRandomMove zone choice monsterId) := by
  unfold handleRandomMove
  split
  · exact Aside.refl world
  · split
    · exact Aside.refl world
    · split
      · exact (Aside.refl world).scheduleAfter (by decide)
      · split
        · apply Aside.scheduleAfter (by decide)
          unfold randomMove
          split
          · exact Aside.refl world
          · split
            · exact Aside.refl world
            · exact moveMonsterStep_aside filed monsterId _ _
        · exact Aside.modifyMonster (Aside.refl world)

theorem handleMonsterRespawn_aside (filed : Filed world) (monsterId : ObjID) :
    Aside world (world.handleMonsterRespawn zone choice monsterId) := by
  unfold handleMonsterRespawn
  split
  · exact Aside.refl world
  · next found =>
    have nobody := personOf_of_monster found
    have category : monsterId.category ≠ .eUser := by
      rw [filed.monster found]
      decide
    have placed : Aside world ((world.modifyMonster monsterId fun current =>
        { current.clearPath with
          stat := { current.stat with hp := monsterMaxHp, dead := false }
          active := false
          attack := false }).getRandomPosition zone choice monsterId) :=
      Aside.updatePosition nobody category (Aside.modifyMonster (Aside.refl world))
    dsimp only
    split
    · exact placed
    · split
      · exact Aside.modifyMonster placed
      · exact (Aside.modifyMonster placed).sendAll

theorem tryAdvanceTowardGoal_aside (filed : Filed world) (monsterId : ObjID) (goal : Int × Int) :
    Aside world (world.tryAdvanceTowardGoal zone choice monsterId goal).2 := by
  unfold tryAdvanceTowardGoal
  split
  · exact Aside.refl world
  · next subject monster _ =>
    have planned : Aside world (world.modifyMonster monsterId fun _ =>
        (MonsterHelper.stepTowardGoal choice (subject.x, subject.y) goal monster).2) :=
      Aside.modifyMonster (Aside.refl world)
    dsimp only
    split
    · exact planned
    · exact planned.trans (moveMonsterStep_aside (planned.filed filed) monsterId _ _)

theorem returnToSpawn_aside (filed : Filed world) (monsterId targetId : ObjID)
    (spawn : Int × Int) :
    Aside world (world.returnToSpawn zone choice monsterId targetId spawn) := by
  unfold returnToSpawn
  dsimp only
  split
  · exact (tryAdvanceTowardGoal_aside filed monsterId spawn).scheduleAfter (by decide)
  · exact Aside.modifyMonster (tryAdvanceTowardGoal_aside filed monsterId spawn)

theorem handleAggroMove_aside (filed : Filed world) (monsterId targetId : ObjID) :
    Aside world (world.handleAggroMove zone choice monsterId targetId) := by
  unfold handleAggroMove
  split
  · exact Aside.refl world
  · split
    · exact Aside.refl world
    · split
      · exact Aside.modifyMonster (Aside.refl world)
      · split
        · exact Aside.refl world
        · have calmed : Aside world (world.modifyMonster monsterId fun current =>
              { current with attack := false }) := Aside.modifyMonster (Aside.refl world)
          dsimp only
          split
          · exact Aside.modifyMonster calmed
          · exact calmed.trans (returnToSpawn_aside (calmed.filed filed) monsterId targetId _)
          · apply Aside.scheduleAfter (by decide)
            split
            · exact Aside.refl world
            · exact (Aside.refl world).scheduleAfter (by decide)
          · apply Aside.thenQuiet (tryAdvanceTowardGoal_aside filed monsterId _)
            show Quiet Any zone monsterId _ _
            exact afterChase_quiet monsterId targetId _

/-! ## Field items -/

theorem removeFieldItem_aside {itemId : ObjID} (nobody : world.personOf itemId = none)
    (category : itemId.category ≠ .eUser) (subject : Subject) :
    Aside world (world.removeFieldItem zone choice itemId subject) := by
  unfold removeFieldItem deleteObject
  apply Aside.update nobody
  · exact fun _ impossible => absurd impossible (Option.some_ne_none _).symm
  · apply Aside.removeObjectZone category
    apply Aside.removeObject nobody
    exact (Aside.refl world).sendAll

theorem scheduleItemTimers_aside (itemId lootPriorityOwner : ObjID) :
    Aside world (world.scheduleItemTimers zone itemId lootPriorityOwner) := by
  unfold scheduleItemTimers
  have scheduled : Aside world
      (world.scheduleAfter zone itemId itemDespawnDelay .evItemDespawn ObjID.npos) :=
    (Aside.refl world).scheduleAfter (by decide)
  dsimp only
  split
  · exact scheduled.scheduleAfter (by decide)
  · exact scheduled

theorem spawnFieldItem_aside {item : Item} {x y : Int} {owner : ObjID} {after : World}
    (spawned : world.spawnFieldItem zone choice item x y owner = some after) :
    Aside world after := by
  unfold spawnFieldItem at spawned
  dsimp only at spawned
  split at spawned
  · next accepted =>
    have missing : world.objects (ObjID.item world.nextFieldItemId) = none := by
      simpa using accepted.2
    have nobody := personOf_of_none missing
    have category : (ObjID.item world.nextFieldItemId).category ≠ .eUser := by
      rw [ObjID.item_category]
      decide
    have numbered : Aside world { world with nextFieldItemId := world.nextFieldItemId + 1 } :=
      { Aside.refl world with filed := id }
    have registered : Aside world
        ({ world with nextFieldItemId := world.nextFieldItemId + 1 }.insertObject
          (ObjID.item world.nextFieldItemId) (fieldSubject item owner)) := by
      apply Aside.update nobody _ numbered
      intro subject same
      rw [← Option.some.inj same]
      exact ⟨rfl, rfl⟩
    split at spawned
    · contradiction
    · rw [← Option.some.inj spawned]
      apply Aside.trans _ (scheduleItemTimers_aside _ owner)
      apply Aside.sendAll
      exact Aside.updatePosition nobody category registered
  · contradiction

/-- The target of a pickup is an item in reach. -/
theorem pickupTarget_item {playerId : ObjID} {player : Subject} {itemId : ObjID}
    {subject : Subject} {item : Item}
    (target : world.pickupTarget zone choice playerId player = some (itemId, subject, item)) :
    world.getItem itemId = some (subject, item) ∧ itemId.category = .eItem ∧
      itemId ∈ world.neighborIds choice.hash zone player.transform.sector := by
  unfold pickupTarget at target
  rcases List.exists_of_findSome?_eq_some target with ⟨⟨id, object⟩, member, chosen⟩
  rw [mem_neighborObjects_iff] at member
  dsimp only at chosen
  split at chosen
  · contradiction
  · next isItem =>
    split at chosen
    · contradiction
    · split at chosen
      · next bodyOf =>
        split at chosen
        · contradiction
        · obtain ⟨rfl, rfl, rfl⟩ : id = itemId ∧ object = subject ∧ _ = item := by
            simpa using chosen
          exact ⟨getItem_eq_some.mpr ⟨member.2, bodyOf⟩, not_not.mp isItem, member.1⟩
      · contradiction

/-- A pickup changes what a user owns, and not who it is. -/
theorem tryPickupAt_aside {playerId : ObjID} {player : Subject} {user : User} {after : World}
    (found : world.getUser playerId = some (player, user))
    (ran : world.tryPickupAt zone choice playerId player user = some after) :
    Aside world after := by
  unfold tryPickupAt at ran
  split at ran
  · rw [← Option.some.inj ran]
    exact (Aside.refl world).send
  · next itemId subject item target =>
    obtain ⟨isItem, category, _⟩ := pickupTarget_item target
    split at ran
    · contradiction
    · rw [← Option.some.inj ran]
      exact (Aside.refl world).send.send
    · next touched filled added =>
      split at ran
      · contradiction
      · rw [← Option.some.inj ran]
        have stored : Aside world (world.setInventory playerId filled) :=
          Aside.setInventory found (Inventory.tryAddItem_sameOwner added)
        apply Aside.post
        apply Aside.send
        apply stored.trans
        apply removeFieldItem_aside
        · exact (stored.persons itemId).trans (personOf_of_item isItem)
        · rw [category]
          decide

theorem handleDespawn_aside (filed : Filed world) (itemId : ObjID) :
    Aside world (world.handleDespawn zone choice itemId) := by
  unfold handleDespawn
  split
  · exact Aside.refl world
  · next found =>
    apply removeFieldItem_aside (personOf_of_item found)
    rw [filed.item found]
    decide

theorem handleLootPriorityExpire_aside (itemId : ObjID) :
    Aside world (world.handleLootPriorityExpire itemId) := by
  apply Quiet.aside
  show Quiet Any 0 itemId _ _
  exact Quiet.modifyItem (fun _ => rfl) (fun _ => rfl) (Quiet.refl world)

/-! ## Attacks -/

theorem killMonster_aside {monsterId playerId : ObjID} {subject : Subject} {monster : Monster}
    (nobody : world.personOf monsterId = none) (attacker : User) :
    Aside world (world.killMonster zone choice monsterId playerId subject monster attacker) := by
  unfold killMonster
  dsimp only
  apply Aside.send
  apply Aside.trans (Aside.modifyMonster (Aside.removeObject nobody (Aside.refl world).sendAll))
  apply Quiet.aside
  show Quiet Any zone monsterId _ _
  exact Quiet.setStat (fun _ => Stat.addExp_dead _ _) (Quiet.refl _)

theorem handleItemDrop_aside {monsterId attackerId : ObjID} {x y : Int} {after : World}
    (dropped : world.handleItemDrop zone choice monsterId attackerId x y = some after) :
    Aside world after := by
  unfold handleItemDrop at dropped
  split at dropped
  · exact Option.some.inj dropped ▸ Aside.refl world
  · split at dropped
    · contradiction
    · exact spawnFieldItem_aside dropped

theorem attackMonster_aside {monsterId playerId : ObjID} {damage : Nat} {after : World}
    (attacked : world.attackMonster zone choice monsterId playerId damage = some after) :
    Aside world after := by
  unfold attackMonster at attacked
  split at attacked
  · next subject monster player attacker found _ =>
    split at attacked
    · exact Option.some.inj attacked ▸ Aside.refl world
    · have hit : Aside world (world.modifyMonster monsterId fun current =>
          { current with stat := monster.stat.takeDamage damage }) :=
        Aside.modifyMonster (Aside.refl world)
      dsimp only at attacked
      split at attacked
      · exact Option.some.inj attacked ▸ hit.send
      · rcases Option.map_eq_some_iff.mp attacked with ⟨dropped, drops, rfl⟩
        apply Aside.scheduleAfter (by decide)
        apply Aside.trans _ (handleItemDrop_aside drops)
        apply hit.trans
        exact killMonster_aside ((hit.persons monsterId).trans (personOf_of_monster found)) attacker
  · exact Option.some.inj attacked ▸ Aside.refl world

theorem attackMonsters_aside {playerId : ObjID} {damage : Nat} {targets : List ObjID}
    {after : World}
    (attacked : world.attackMonsters zone choice playerId damage targets = some after) :
    Aside world after := by
  induction targets generalizing world with
  | nil => exact Option.some.inj attacked ▸ Aside.refl world
  | cons monsterId rest ih =>
    rcases Option.bind_eq_some_iff.mp attacked with ⟨middle, first, later⟩
    exact (attackMonster_aside first).trans (ih later)

theorem skillAttack_aside {playerId : ObjID} {after : World}
    (attacked : world.skillAttack zone choice playerId = some after) : Aside world after := by
  unfold skillAttack at attacked
  split at attacked
  · exact Option.some.inj attacked ▸ Aside.refl world
  · split at attacked
    · exact Option.some.inj attacked ▸ Aside.refl world
    · exact attackMonsters_aside attacked

theorem handleAttack_aside {attackerId : ObjID} {facing : UInt8} {after : World}
    (attacked : world.handleAttack zone choice attackerId facing = some after) :
    Aside world after := by
  unfold handleAttack at attacked
  split at attacked
  · exact Option.some.inj attacked ▸ Aside.refl world
  · exact Aside.trans (Aside.sendAll (Aside.refl world)) (attackMonsters_aside attacked)

/-! ## Requests -/

/-- The stamps at the head of a request. -/
theorem modifyUser_aside {id : ObjID} {change : User → User}
    (dead : ∀ user, (change user).stat.dead = user.stat.dead)
    (playerId : ∀ user, (change user).inventory.playerId = user.inventory.playerId)
    (slots : ∀ user, (change user).inventory.slots = user.inventory.slots) :
    Aside world (world.modifyUser id change) := by
  apply Quiet.aside
  show Quiet Any 0 id _ _
  exact Quiet.modifyUser dead playerId slots (Quiet.refl world)

/-- A handler that needs a grid runs on the thread of a zone. -/
theorem onSector_eq_some {thread : Nat} {body : Nat → Option World} {after : World} :
    onSector thread body = some after ↔ isValidZoneId thread = true ∧ body thread = some after := by
  unfold onSector
  split
  · next valid => simp [valid]
  · next invalid => simp [invalid]

theorem attackRequest_aside {thread session : Nat} {facing : UInt8} {after : World}
    (ran : world.attackRequest thread choice session facing = some after) : Aside world after := by
  unfold attackRequest at ran
  split at ran
  · exact Option.some.inj ran ▸ Aside.refl world
  · split at ran
    · dsimp only at ran
      rw [onSector_eq_some] at ran
      apply Aside.trans _ (handleAttack_aside ran.2)
      refine Aside.modify (fun _ _ => rfl) (fun _ => rfl) ?_
      exact modifyUser_aside (fun _ => rfl) (fun _ => rfl) (fun _ => rfl)
    · exact Option.some.inj ran ▸ Aside.refl world

theorem skillRequest_aside {thread session : Nat} {after : World}
    (ran : world.skillRequest thread choice session = some after) : Aside world after := by
  unfold skillRequest at ran
  split at ran
  · exact Option.some.inj ran ▸ Aside.refl world
  · split at ran
    · dsimp only at ran
      rw [onSector_eq_some] at ran
      apply Aside.trans _ (skillAttack_aside ran.2)
      exact modifyUser_aside (fun _ => rfl) (fun _ => rfl) (fun _ => rfl)
    · exact Option.some.inj ran ▸ Aside.refl world

theorem broadcastEquipChange_aside {playerId : ObjID} :
    Aside world (world.broadcastEquipChange zone choice playerId) := by
  apply Quiet.aside
  show Quiet Silent zone playerId _ _
  exact broadcastEquipChange_quiet (Quiet.refl world)

theorem equipRequest_aside {thread session : Nat} {index : SlotIndex} {after : World}
    (ran : world.equipRequest thread choice session index = some after) : Aside world after := by
  unfold equipRequest at ran
  split at ran
  · exact Option.some.inj ran ▸ Aside.refl world
  · next client user allowed =>
    have stored : Aside world (world.setInventory (ObjID.user session)
        (user.inventory.tryEquip choice.slots index).2) :=
      Aside.setInventory (playing_eq_some.mp allowed).2.1
        (Inventory.tryEquip_sameOwner choice.slots index user.inventory)
    rcases Option.bind_eq_some_iff.mp ran with ⟨slot, _, answered⟩
    dsimp only at answered
    split at answered
    · rw [onSector_eq_some] at answered
      rcases Option.map_eq_some_iff.mp answered.2 with ⟨packets, _, rfl⟩
      exact (stored.send.trans broadcastEquipChange_aside).post
    · exact Option.some.inj answered ▸ stored.send

theorem unequipRequest_aside {thread session : Nat} {index : SlotIndex} {after : World}
    (ran : world.unequipRequest thread choice session index = some after) : Aside world after := by
  unfold unequipRequest at ran
  split at ran
  · exact Option.some.inj ran ▸ Aside.refl world
  · next client user allowed =>
    have stored : Aside world (world.setInventory (ObjID.user session)
        (user.inventory.tryUnequip choice.slots index).2) :=
      Aside.setInventory (playing_eq_some.mp allowed).2.1
        (Inventory.tryUnequip_sameOwner choice.slots index user.inventory)
    rcases Option.bind_eq_some_iff.mp ran with ⟨slot, _, answered⟩
    dsimp only at answered
    split at answered
    · rw [onSector_eq_some] at answered
      exact Option.some.inj answered.2 ▸ stored.send.trans broadcastEquipChange_aside
    · exact Option.some.inj answered ▸ stored.send

theorem swapRequest_aside {session : Nat} {indexA indexB : SlotIndex} {after : World}
    (ran : world.swapRequest session indexA indexB = some after) : Aside world after := by
  unfold swapRequest at ran
  split at ran
  · exact Option.some.inj ran ▸ Aside.refl world
  · next client user allowed =>
    rw [← Option.some.inj ran]
    apply Aside.send
    exact Aside.setInventory (playing_eq_some.mp allowed).2.1
      (Inventory.trySwapSlots_sameOwner indexA indexB user.inventory)

/-- A discarded item lies on the ground, and nobody moves. -/
theorem discardRequest_aside {thread session : Nat} {index : SlotIndex} {count : UInt16}
    {after : World} (ran : world.discardRequest thread choice session index count = some after) :
    Aside world after := by
  unfold discardRequest at ran
  split at ran
  · exact Option.some.inj ran ▸ Aside.refl world
  · next client user allowed =>
    rcases Option.bind_eq_some_iff.mp ran with ⟨result, extracted, handed⟩
    have stored : Aside world (world.setInventory (ObjID.user session) result.2) :=
      Aside.setInventory (playing_eq_some.mp allowed).2.1
        (Inventory.tryExtractItem_sameOwner extracted)
    dsimp only at handed
    split at handed
    · exact Option.some.inj handed ▸ stored.send
    · rw [onSector_eq_some] at handed
      rcases Option.map_eq_some_iff.mp handed.2 with ⟨spawned, spawns, rfl⟩
      exact ((stored.trans (spawnFieldItem_aside spawns)).trans broadcastEquipChange_aside).send

theorem pickupRequest_aside {thread session : Nat} {after : World}
    (ran : world.pickupRequest thread choice session = some after) : Aside world after := by
  unfold pickupRequest at ran
  split at ran
  · exact Option.some.inj ran ▸ Aside.refl world
  · next client user allowed =>
    rw [onSector_eq_some] at ran
    exact tryPickupAt_aside (playing_eq_some.mp allowed).2.1 ran.2

theorem useRequest_aside {session : Nat} {index : SlotIndex} {after : World}
    (ran : world.useRequest choice session index = some after) : Aside world after := by
  unfold useRequest at ran
  split at ran
  · exact Option.some.inj ran ▸ Aside.refl world
  · next client user allowed =>
    split at ran
    · rcases Option.map_eq_some_iff.mp ran with ⟨result, used, rfl⟩
      have found := (playing_eq_some.mp allowed).2.1
      rw [getUser_eq_some] at found
      have stamped : Aside world (world.modifyUser (ObjID.user session) fun current =>
          { current with lastPotionUseTime := choice.now }) :=
        modifyUser_aside (fun _ => rfl) (fun _ => rfl) (fun _ => rfl)
      have still : (world.modifyUser (ObjID.user session) fun current =>
          { current with lastPotionUseTime := choice.now }).getUser (ObjID.user session) =
            some ({ client with body := .user { user with lastPotionUseTime := choice.now } },
              { user with lastPotionUseTime := choice.now }) := by
        rw [getUser_eq_some]
        simp [modifyUser, modify, found.1, found.2]
      have stored := stamped.trans (Aside.setInventory still (Inventory.tryUseItem_sameOwner used))
      dsimp only
      split
      · exact stored.send.send
      · exact stored.send
    · exact Option.some.inj ran ▸ Aside.refl world

theorem chatRequest_aside {thread session : Nat} {mess : String} {after : World}
    (ran : world.chatRequest thread choice session mess = some after) : Aside world after := by
  unfold chatRequest at ran
  split at ran
  · exact Option.some.inj ran ▸ Aside.refl world
  · split at ran
    · exact Option.some.inj ran ▸ Aside.refl world
    · rw [onSector_eq_some] at ran
      rw [← Option.some.inj ran.2]
      apply Quiet.aside
      show Quiet Silent thread (ObjID.user session) _ _
      exact broadcastChat_quiet choice (ObjID.user session) mess world

theorem loginRequest_aside {session : Nat} {name password : String} {after : World}
    (ran : world.loginRequest session name password = some after) : Aside world after := by
  unfold loginRequest at ran
  split at ran
  · exact Option.some.inj ran ▸ Aside.refl world
  · rw [← Option.some.inj ran]
    apply Quiet.aside
    show Quiet Any 0 (ObjID.user session) _ _
    exact Quiet.requestDb (Quiet.refl world)

/-! ## Start of the server -/

theorem personOf_of_category {id : ObjID} (filed : Filed world) (category : id.category ≠ .eUser) :
    world.personOf id = none := by
  rw [← Option.not_isSome_iff_eq_none]
  intro isPerson
  rcases Option.isSome_iff_exists.mp isPerson with ⟨person, found⟩
  rcases personOf_eq_some_iff.mp found with ⟨subject, user, isUser, _⟩
  rw [getUser_eq_some] at isUser
  have same := filed id subject isUser.1
  rw [Subject.category, isUser.2] at same
  exact category same.symm

theorem initMonster_aside {draw : Nat → Int × Int} (filed : Filed world) (index : Nat) :
    Aside world (world.initMonster zone draw index) := by
  have category : (ObjID.monster (monsterIdStart + index)).category ≠ .eUser := by
    rw [ObjID.monster_category]
    decide
  have nobody := personOf_of_category filed category
  unfold initMonster
  apply Aside.modifyMonster
  apply Aside.updatePosition nobody category
  apply Aside.update nobody _ (Aside.refl world)
  intro subject same
  rw [← Option.some.inj same]
  exact ⟨rfl, rfl⟩

/-- One thing aside after the other is aside. -/
theorem foldl_aside {α : Type} {body : World → α → World}
    (each : ∀ current entry, Filed current → Aside current (body current entry)) (entries : List α)
    (filed : Filed world) : Aside world (entries.foldl body world) := by
  induction entries generalizing world with
  | nil => exact Aside.refl world
  | cons entry rest ih =>
    have first := each world entry filed
    exact first.trans (ih (first.filed filed))

theorem filed_empty : Filed empty :=
  fun _ _ impossible => absurd impossible.symm (Option.some_ne_none _)

/-- The start of the server registers no player. -/
theorem boot_aside (count : Nat) (draw : Nat → Int × Int) : Aside empty (boot count draw) := by
  apply foldl_aside _ _ filed_empty
  intro current zone filed
  apply foldl_aside _ _ filed
  exact fun other index otherFiled => initMonster_aside otherFiled index

end World

end Mmorpg
