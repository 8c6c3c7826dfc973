import Mmorpg.World.DressedEntry
import Mmorpg.World.FollowUp

/-!
# Requests keep the scene dressed

Equipping, unequipping and discarding announce the weapon to everybody around;
all other requests leave the weapon as it is.
-/

namespace Mmorpg

open ZoneLayout

variable {grid : CollisionGrid} {zone own thread : Nat} {choice : Choice grid}
  {world stored after : World} {figure : Figure} {player : Subject} {user : User}

/-! ## Weapons -/

theorem Slots.weapon_congr {before after : Inventory} (keysBefore : before.slots.KeysValid)
    (singleBefore : before.slots.SingleEquipped) (keysAfter : after.slots.KeysValid)
    (singleAfter : after.slots.SingleEquipped)
    (same : ∀ itemId, after.slots.Wears itemId ↔ before.slots.Wears itemId) :
    after.slots.weapon = before.slots.weapon :=
  calc
    after.slots.weapon = after.getEquippedItemId .ascending :=
      (Inventory.getEquippedItemId_eq_weapon keysAfter singleAfter .ascending).symm
    _ = before.getEquippedItemId .ascending :=
      Inventory.getEquippedItemId_congr keysBefore singleBefore keysAfter singleAfter same
    _ = before.slots.weapon :=
      Inventory.getEquippedItemId_eq_weapon keysBefore singleBefore .ascending

/-- The inventory of the same living or dead player, who still wears at most
one item. -/
structure Inventory.Rearranged (before after : Inventory) : Prop where
  dead : after.stat.dead = before.stat.dead
  keys : before.slots.KeysValid → after.slots.KeysValid
  single : before.slots.KeysValid → before.slots.SingleEquipped → after.slots.SingleEquipped

/-- Every call keeps at most one item worn. -/
theorem InventoryOp.rearranged_of_run {order : SlotOrder} {op : InventoryOp}
    {before after : Inventory} {flag : Bool} (ran : op.run order before = some (flag, after))
    (owner : Inventory.SameOwner before after) : before.Rearranged after := by
  refine ⟨owner.dead, ?_, ?_⟩
  · rcases InventoryOp.run_cases ran with ⟨_, rfl⟩ | ⟨_, _, succeeded, _⟩
    · exact id
    · exact succeeded.1.keysValid
  · rcases InventoryOp.run_cases ran with ⟨_, rfl⟩ | ⟨_, _, succeeded, _⟩
    · exact fun _ single => single
    · exact succeeded.1.singleEquipped

/-- A call that fails changes nothing that is worn. -/
theorem InventoryOp.keepsWorn_of_failed {order : SlotOrder} {op : InventoryOp}
    {before after : Inventory} {flag : Bool} (ran : op.run order before = some (flag, after))
    (failed : ¬flag = true) : before.KeepsWorn after := by
  cases flag with
  | false =>
      rw [InventoryOp.eq_of_run_false ran]
      exact Inventory.KeepsWorn.refl before
  | true => exact absurd rfl failed

/-- An operation that keeps the worn item keeps the weapon. -/
theorem Inventory.Rearranged.weapon {before after : Inventory} (rearranged : before.Rearranged after)
    (keys : before.slots.KeysValid) (single : before.slots.SingleEquipped)
    (worn : before.KeepsWorn after) : after.slots.weapon = before.slots.weapon :=
  Slots.weapon_congr keys single (rearranged.keys keys) (rearranged.single keys single) worn.worn

namespace World

open Scene

/-! ## Storing an inventory -/

theorem setInventory_recast (laid : world.scene.Laid zone)
    (found : world.getUser (ObjID.user own) = some (player, user)) {inventory : Inventory}
    (rearranged : user.inventory.Rearranged inventory) :
    Recast zone own (some ⟨player.transform, user.stat.dead, inventory.slots⟩) world.scene
      (world.setInventory (ObjID.user own) inventory).scene := by
  have changed := (laid.recast (figure_of_getUser found)).modifyUser found
    fun user => { user with inventory := { inventory with issued := [] } }
  have dead : inventory.stat.dead = user.stat.dead := rearranged.dead
  rw [← dead]
  exact changed

theorem setInventory_laid (laid : world.scene.Laid zone)
    (found : world.getUser (ObjID.user own) = some (player, user)) {inventory : Inventory}
    (rearranged : user.inventory.Rearranged inventory) :
    (world.setInventory (ObjID.user own) inventory).scene.Laid zone := by
  have figured := figure_of_getUser found
  have armed := laid.armed own _ figured
  apply (setInventory_recast laid found rearranged).laid laid
  have located := laid.located own _ figured
  rintro _ ⟨⟩
  exact ⟨located, laid.ingame own _ figured, rearranged.keys armed.1,
    rearranged.single armed.1 armed.2⟩

/-- Nobody has to be told about an inventory with the same weapon. -/
theorem setInventory_staged (staged : world.scene.Staged zone)
    (found : world.getUser (ObjID.user own) = some (player, user)) {inventory : Inventory}
    (rearranged : user.inventory.Rearranged inventory)
    (worn : user.inventory.KeepsWorn inventory) :
    (world.setInventory (ObjID.user own) inventory).scene.Staged zone := by
  have figured := figure_of_getUser found
  have armed := staged.laid.armed own _ figured
  refine ⟨setInventory_laid staged.laid found rearranged, ?_⟩
  apply (setInventory_recast staged.laid found rearranged).dressed_of_quiet staged.dressed figured
  · exact rearranged.weapon armed.1 armed.2 worn
  · exact fun _ near => near
  · rfl

/-- Whoever is told about a new weapon and knows the player draws it. -/
theorem shownWeapon_sendAll_equipChange {receivers : List ObjID} {viewer : Nat}
    {weapon : ItemTableId} (told : ObjID.user viewer ∈ receivers)
    (known : (world.shownWeapon viewer own).isSome) :
    (world.sendAll receivers (.subjectEquipChangeNfy (ObjID.user own) weapon)).shownWeapon viewer
      own = some weapon := by
  have only : ∀ packet ∈ toldTo viewer (receivers.map fun receiver =>
      (receiver.databaseId, ServerPacket.subjectEquipChangeNfy (ObjID.user own) weapon)),
      ∀ known, packet.weaponAfter (ObjID.user own) known = known.map fun _ => weapon := by
    intro packet member known
    obtain ⟨_, _, same⟩ := List.mem_map.mp (mem_toldTo_iff.mp member)
    obtain rfl := congrArg Prod.snd same
    exact if_pos rfl
  rw [sendAll, shownWeapon_post]
  apply ServerPacket.weaponAfter_reaches (·.isSome) (· = some weapon)
  · intro packet member known present
    rw [only packet member, Option.isSome_map]
    exact present
  · rintro packet member _ rfl
    rw [only packet member, Option.map_some]
  · refine ⟨_, mem_toldTo_iff.mpr (List.mem_map_of_mem told), fun known present => ?_⟩
    obtain ⟨old, rfl⟩ := Option.isSome_iff_exists.mp present
    exact if_pos rfl
  · exact known

/-- `BroadcastEquipChange` reaches exactly the users in view, who all know the
player from an add packet. -/
theorem broadcastEquipChange_staged (staged : world.scene.Staged zone)
    (found : world.getUser (ObjID.user own) = some (player, user)) {inventory : Inventory}
    (rearranged : user.inventory.Rearranged inventory)
    (same : stored.scene = (world.setInventory (ObjID.user own) inventory).scene) :
    (stored.broadcastEquipChange zone choice (ObjID.user own)).scene.Staged zone := by
  have recast := setInventory_recast staged.laid found rearranged
  have laid := setInventory_laid staged.laid found rearranged
  rw [← same] at recast laid
  have armed := laid.armed own _ recast.self
  obtain ⟨client, holder, playing, figures⟩ := figure_eq_some.mp recast.self
  obtain ⟨transform, _, slots⟩ := Figure.mk.inj figures
  have announces : holder.inventory.getEquippedItemId choice.slots = inventory.slots.weapon := by
    rw [slots] at armed ⊢
    exact Inventory.getEquippedItemId_eq_weapon armed.1 armed.2 choice.slots
  rw [broadcastEquipChange, playing]
  dsimp only
  rw [announces]
  have shown : ∀ viewer target, stored.shownWeapon viewer target = world.shownWeapon viewer target :=
    fun viewer target => congrFun (congrFun (congrArg Scene.shown same) viewer) target
  have elsewhere : ∀ viewer target, target ≠ own → (stored.sendAll
      (stored.viewers choice.hash zone client) (.subjectEquipChangeNfy (ObjID.user own)
        inventory.slots.weapon)).shownWeapon viewer target = world.shownWeapon viewer target := by
    intro viewer target foreign
    refine (shownWeapon_post_other ?_).trans (shown viewer target)
    intro packet member
    obtain ⟨_, _, sent⟩ := List.mem_map.mp member
    obtain rfl := congrArg Prod.snd sent
    exact fun mine => foreign (ObjID.user_inj.mp (Option.some.inj mine)).symm
  constructor
  · exact Laid.post laid _
  apply (recast.post _).dressed staged.dressed
  · exact fun viewer target _ foreign => elsewhere viewer target foreign
  · rintro viewer seer _ other viewing ⟨⟩ near
    apply shownWeapon_sendAll_equipChange
    · rw [mem_viewers_of_laid laid, ← transform]
      exact ⟨seer, (recast.other other).trans viewing, near⟩
    · rw [shown]
      have known := staged.dressed viewer own seer _ other viewing (figure_of_getUser found) near
      exact Option.isSome_iff_exists.mpr ⟨_, known⟩
  · rintro target seer figure foreign viewed ⟨⟩ near
    refine (elsewhere own target foreign).trans ?_
    exact staged.dressed own target _ figure (Ne.symm foreign) (figure_of_getUser found) viewed near

/-! ## Requests about items -/

theorem scene_acquirePackets {playerId : ObjID} {inventory : Inventory} {touched : List SlotIndex}
    {acquired : List (Nat × ServerPacket)}
    (told : acquirePackets playerId inventory touched = some acquired) (world : World) :
    (world.post acquired).scene = world.scene := by
  apply scene_post
  induction touched generalizing acquired with
  | nil =>
      cases told
      exact fun _ member => absurd member List.not_mem_nil
  | cons index rest ih =>
      rw [acquirePackets, List.mapM_cons] at told
      obtain ⟨first, shown, others⟩ := Option.bind_eq_some_iff.mp told
      obtain ⟨item, _, rfl⟩ := Option.map_eq_some_iff.mp shown
      obtain ⟨later, mapped, collected⟩ := Option.bind_eq_some_iff.mp others
      cases collected
      intro entry member
      rcases List.mem_cons.mp member with rfl | among
      · exact unworn_of_bearer rfl
      · exact ih mapped entry among

section Requests

variable (staged : world.scene.Staged zone)

include staged

/-- Those who see the user are told of its new weapon. -/
theorem equipRequest_staged (within : isValidZoneId thread = true → thread = zone)
    {index : SlotIndex} (ran : world.equipRequest thread choice own index = some after) :
    after.scene.Staged zone := by
  unfold equipRequest at ran
  split at ran
  · exact Option.some.inj ran ▸ staged
  · next client user allowed =>
    obtain ⟨_, found, _⟩ := playing_eq_some.mp allowed
    have equips : (InventoryOp.equip index).run choice.slots user.inventory =
        some ((user.inventory.tryEquip choice.slots index).1.1,
          (user.inventory.tryEquip choice.slots index).2) := rfl
    have rearranged := InventoryOp.rearranged_of_run equips
      (Inventory.tryEquip_sameOwner choice.slots index user.inventory)
    obtain ⟨slot, answered, served⟩ := Option.bind_eq_some_iff.mp ran
    dsimp only at served
    split at served
    · rw [onSector_eq_some] at served
      obtain ⟨acquired, told, rfl⟩ := Option.map_eq_some_iff.mp served.2
      rw [scene_acquirePackets told, within served.1]
      exact broadcastEquipChange_staged staged found rearranged (scene_send (unworn_of_bearer rfl))
    · next failed =>
      rw [← Option.some.inj served, scene_send (unworn_of_bearer rfl)]
      exact setInventory_staged staged found rearranged
        (InventoryOp.keepsWorn_of_failed equips failed)

/-- Those who see the user are told of its empty hand. -/
theorem unequipRequest_staged (within : isValidZoneId thread = true → thread = zone)
    {index : SlotIndex} (ran : world.unequipRequest thread choice own index = some after) :
    after.scene.Staged zone := by
  unfold unequipRequest at ran
  split at ran
  · exact Option.some.inj ran ▸ staged
  · next client user allowed =>
    obtain ⟨_, found, _⟩ := playing_eq_some.mp allowed
    have bares : (InventoryOp.unequip index).run choice.slots user.inventory =
        some ((user.inventory.tryUnequip choice.slots index).1,
          (user.inventory.tryUnequip choice.slots index).2) := rfl
    have rearranged := InventoryOp.rearranged_of_run bares
      (Inventory.tryUnequip_sameOwner choice.slots index user.inventory)
    obtain ⟨slot, answered, served⟩ := Option.bind_eq_some_iff.mp ran
    dsimp only at served
    split at served
    · rw [onSector_eq_some] at served
      rw [← Option.some.inj served.2, within served.1]
      exact broadcastEquipChange_staged staged found rearranged (scene_send (unworn_of_bearer rfl))
    · next failed =>
      rw [← Option.some.inj served, scene_send (unworn_of_bearer rfl)]
      exact setInventory_staged staged found rearranged
        (InventoryOp.keepsWorn_of_failed bares failed)

theorem swapRequest_staged {indexA indexB : SlotIndex}
    (ran : world.swapRequest own indexA indexB = some after) : after.scene.Staged zone := by
  unfold swapRequest at ran
  split at ran
  · exact Option.some.inj ran ▸ staged
  · next client user allowed =>
    obtain ⟨_, found, _⟩ := playing_eq_some.mp allowed
    have swaps : (InventoryOp.swapSlots indexA indexB).run .ascending user.inventory =
        some ((user.inventory.trySwapSlots indexA indexB).1,
          (user.inventory.trySwapSlots indexA indexB).2) := rfl
    have rearranged := InventoryOp.rearranged_of_run swaps
      (Inventory.trySwapSlots_sameOwner indexA indexB user.inventory)
    rw [← Option.some.inj ran, scene_send (unworn_of_bearer rfl)]
    exact setInventory_staged staged found rearranged
      (Inventory.trySwapSlots_keepsWorn indexA indexB user.inventory)

/-- Whatever was discarded, the weapon is announced. -/
theorem discardRequest_staged (within : isValidZoneId thread = true → thread = zone)
    {index : SlotIndex} {count : UInt16}
    (ran : world.discardRequest thread choice own index count = some after) :
    after.scene.Staged zone := by
  unfold discardRequest at ran
  split at ran
  · exact Option.some.inj ran ▸ staged
  · next client user allowed =>
    obtain ⟨_, found, _⟩ := playing_eq_some.mp allowed
    obtain ⟨⟨extracted, inventory⟩, taken, served⟩ := Option.bind_eq_some_iff.mp ran
    have extracts : (InventoryOp.extractItem index count).run choice.slots user.inventory =
        some (extracted.isSome, inventory) := by
      rw [InventoryOp.run, taken]
      rfl
    have rearranged := InventoryOp.rearranged_of_run extracts
      (Inventory.tryExtractItem_sameOwner taken)
    dsimp only at served
    split at served
    · rw [← Option.some.inj served, scene_send (unworn_of_bearer rfl)]
      exact setInventory_staged staged found rearranged
        (InventoryOp.keepsWorn_of_failed extracts Bool.false_ne_true)
    · rw [onSector_eq_some] at served
      obtain ⟨spawned, spawns, rfl⟩ := Option.map_eq_some_iff.mp served.2
      rw [scene_send (unworn_of_bearer rfl), within served.1]
      exact broadcastEquipChange_staged staged found rearranged (scene_spawnFieldItem spawns)

theorem useRequest_staged {index : SlotIndex}
    (ran : world.useRequest choice own index = some after) : after.scene.Staged zone := by
  unfold useRequest at ran
  split at ran
  · exact Option.some.inj ran ▸ staged
  · next client user allowed =>
    obtain ⟨_, found, _⟩ := playing_eq_some.mp allowed
    split at ran
    · obtain ⟨⟨success, inventory⟩, used, rfl⟩ := Option.map_eq_some_iff.mp ran
      have rearranged := InventoryOp.rearranged_of_run
        (show (InventoryOp.useItem index).run choice.slots user.inventory = _ from used)
        (Inventory.tryUseItem_sameOwner used)
      have stamped : (world.modifyUser (ObjID.user own) fun current =>
          { current with lastPotionUseTime := choice.now }).scene.Staged zone := by
        rw [scene_modifyUser]
        · exact staged
        · exact fun _ => rfl
        · exact fun _ => rfl
      have kept := setInventory_staged stamped (getUser_modifyUser _ found) rearranged
        (Inventory.tryUseItem_keepsWorn used)
      dsimp only
      rw [scene_send (unworn_of_bearer rfl)]
      split
      · rw [scene_send (unworn_of_bearer rfl)]
        exact kept
      · exact kept
    · exact Option.some.inj ran ▸ staged

theorem pickupRequest_staged (ran : world.pickupRequest thread choice own = some after) :
    after.scene.Staged zone := by
  unfold pickupRequest at ran
  split at ran
  · exact Option.some.inj ran ▸ staged
  · next client user allowed =>
    obtain ⟨_, found, _⟩ := playing_eq_some.mp allowed
    rw [onSector_eq_some] at ran
    have picked := ran.2
    unfold tryPickupAt at picked
    split at picked
    · rw [← Option.some.inj picked, scene_send (unworn_of_bearer rfl)]
      exact staged
    · next itemId subject item target =>
      split at picked
      · contradiction
      · rw [← Option.some.inj picked, scene_send (unworn_of_bearer rfl),
          scene_send (unworn_of_bearer rfl)]
        exact staged
      · next touched filled added =>
        split at picked
        · contradiction
        · next acquired told =>
          have notUser : itemId.category ≠ .eUser := by
            rw [(pickupTarget_item target).2.1]
            decide
          have adds : (InventoryOp.addItem item.itemTableId item.count).run choice.slots
              user.inventory = some (true, filled) := by
            rw [InventoryOp.run, added]
            rfl
          rw [← Option.some.inj picked, scene_acquirePackets told,
            scene_send (unworn_of_bearer rfl), scene_removeFieldItem notUser]
          exact setInventory_staged staged found
            (InventoryOp.rearranged_of_run adds (Inventory.tryAddItem_sameOwner added))
            (Inventory.tryAddItem_keepsWorn added)

end Requests

end World

end Mmorpg
