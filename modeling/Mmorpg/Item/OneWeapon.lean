import Mathlib.Data.List.Nodup
import Mmorpg.Item.AttackPower

/-!
# One equipped weapon

`LoadFromDB` equips every stored row that asks for it, and `TryEquip` takes off
the first other weapon it meets.  One weapon at most is worn after any calls
exactly if one stored row at most loads as worn.
-/

namespace Mmorpg

namespace Inventory

variable {order : SlotOrder} {inventory : Inventory} {items : List DbItemInfo}

/-- At most one slot is equipped, so nothing depends on the iteration order, and
equipping a slot leaves it the only one. -/
structure OneWeapon (inventory : Inventory) : Prop where
  single : inventory.slots.SingleEquipped
  reported : ∀ first second : SlotOrder,
    inventory.getEquippedItemId first = inventory.getEquippedItemId second
  power : ∀ first second : SlotOrder,
    inventory.recomputeOffensive first = inventory.recomputeOffensive second
  equips : ∀ (order : SlotOrder) (index : SlotIndex) (previous : Option SlotIndex)
    (after : Inventory), inventory.tryEquip order index = ((true, previous), after) →
      ∀ other, after.slots.EquippedAt other ↔ other = index

/-- Whatever calls follow the load, in whatever iteration orders. -/
def AlwaysOneWeapon (items : List DbItemInfo) : Prop :=
  ∀ (ownerId : ObjID) (playerId : Int) (stat : Stat) (order : SlotOrder)
    (calls : List InventoryCall) (reached : Inventory),
      runOps calls ((fresh ownerId playerId stat).loadFromDB order items) = some reached →
        reached.OneWeapon

/-! ## From one equipped slot -/

/-- A slot that was just equipped is equipped. -/
theorem equippedAt_tryEquip {index : SlotIndex} {previous : Option SlotIndex} {after : Inventory}
    (equipped : inventory.tryEquip order index = ((true, previous), after)) :
    after.slots.EquippedAt index := by
  unfold tryEquip at equipped
  split at equipped
  · cases equipped
  · split at equipped
    · cases equipped
    · next item stored =>
      split at equipped
      · cases equipped
      · next wearable =>
        have equipment : item.isEquipment = true := by
          by_contra other
          exact wearable (.inl (by simpa using other))
        split at equipped
        · next worn met =>
          have different := (otherEquipped_eq_some met).1
          obtain ⟨_, rfl⟩ := Prod.mk.inj equipped
          simp [Slots.EquippedAt, Slots.modify_apply, Ne.symm different, stored,
            Item.setEquipped_isEquipped, equipment]
        · obtain ⟨_, rfl⟩ := Prod.mk.inj equipped
          simp [Slots.EquippedAt, Slots.modify_apply, stored, Item.setEquipped_isEquipped, equipment]

/-- After putting an item on, no other one is worn. -/
theorem tryEquip_only {index : SlotIndex} {previous : Option SlotIndex} {after : Inventory}
    (keys : inventory.slots.KeysValid) (single : inventory.slots.SingleEquipped)
    (equipped : inventory.tryEquip order index = ((true, previous), after)) (other : SlotIndex) :
    after.slots.EquippedAt other ↔ other = index := by
  have here := equippedAt_tryEquip equipped
  rcases inventory.tryEquip_cases order index with failed | ⟨_, reached, succeeds, succeeded⟩
  · rw [failed] at equipped
    cases equipped
  · obtain ⟨_, rfl⟩ := Prod.mk.inj (succeeds.symm.trans equipped)
    have stillSingle := succeeded.1.singleEquipped keys single
    constructor
    · exact fun there => stillSingle other index there here
    · rintro rfl
      exact here

/-- With one item worn, all readers agree on it. -/
theorem oneWeapon_of_single (keys : inventory.slots.KeysValid)
    (single : inventory.slots.SingleEquipped) : inventory.OneWeapon where
  single := single
  reported _ _ := getEquippedItemId_congr keys single keys single fun _ => Iff.rfl
  power first second := by
    have same : inventory.getEquippedItemId first = inventory.getEquippedItemId second :=
      getEquippedItemId_congr keys single keys single fun _ => Iff.rfl
    rw [recomputeOffensive, recomputeOffensive, same]
  equips _ _ _ _ equipped := tryEquip_only keys single equipped

theorem callStep_single (call : InventoryCall) (inventory next : Inventory)
    (taken : callStep call inventory = some next)
    (holds : inventory.slots.KeysValid ∧ inventory.slots.SingleEquipped) :
    next.slots.KeysValid ∧ next.slots.SingleEquipped := by
  rcases Option.map_eq_some_iff.mp taken with ⟨⟨flag, after⟩, ran, rfl⟩
  rcases InventoryOp.run_cases ran with ⟨_, rfl⟩ | ⟨_, _, succeeded, _⟩
  · exact holds
  · exact ⟨succeeded.1.keysValid holds.1, succeeded.1.singleEquipped holds.1 holds.2⟩

theorem alwaysOneWeapon_of_once (once : (wornRows items).length ≤ 1) : AlwaysOneWeapon items := by
  intro ownerId playerId stat order calls reached ran
  have armed := loadFromDB_armed once ownerId playerId stat order
  have kept := Transition.invariant_of_run callStep_single ran ⟨armed.keys, armed.single⟩
  exact oneWeapon_of_single kept.1 kept.2

/-! ## From one worn row -/

/-- Every worn row is equipped by the load. -/
theorem equippedAt_of_wornRow (distinct : (items.map DbItemInfo.slotIndex).Nodup)
    {ownerId : ObjID} {playerId : Int} {stat : Stat} {info : DbItemInfo}
    (worn : info ∈ wornRows items) :
    ((fresh ownerId playerId stat).loadFromDB order items).slots.EquippedAt info.slotIndex := by
  obtain ⟨member, flag, valid, row, found, typed⟩ :
      info ∈ items ∧ info.equipped = true ∧ isValidSlotIndex info.slotIndex ∧
        ∃ row, ItemTable.find info.itemId = some row ∧ row.type = .eEquipment := by
    simpa [wornRows, Option.any_eq_true] using worn
  obtain ⟨holder, atSlot⟩ :
      ∃ holder, (items.find? fun other => other.slotIndex == info.slotIndex) = some holder :=
    Option.isSome_iff_exists.mp (List.find?_isSome.mpr ⟨info, member, by simp⟩)
  obtain rfl : holder = info :=
    List.inj_on_of_nodup_map distinct (List.mem_of_find?_eq_some atSlot) member
      (by simpa using List.find?_some atSlot)
  rw [Slots.EquippedAt, loadFromDB_fresh_slots distinct, loadedAt, if_pos valid, atSlot]
  simp [loadedItem, makeNewItem, found, flag, typed, Item.setEquipped_isEquipped,
    Item.isEquipment]

/-- Two worn rows are both worn after loading. -/
theorem once_of_alwaysOneWeapon (distinct : (items.map DbItemInfo.slotIndex).Nodup)
    (always : AlwaysOneWeapon items) : (wornRows items).length ≤ 1 := by
  have single := (always (ObjID.user 0) 0 {} .ascending [] _ rfl).single
  match worn : wornRows items with
  | [] => simp
  | [info] => simp
  | first :: second :: rest =>
    have firstWorn : first ∈ wornRows items := by simp [worn]
    have secondWorn : second ∈ wornRows items := by simp [worn]
    have same := single _ _ (equippedAt_of_wornRow distinct firstWorn)
      (equippedAt_of_wornRow distinct secondWorn)
    have slots : ((wornRows items).map DbItemInfo.slotIndex).Nodup :=
      distinct.sublist (List.filter_sublist.map _)
    simp [worn, same] at slots

/-- Stored rows with distinct slots. -/
theorem alwaysOneWeapon_iff (distinct : (items.map DbItemInfo.slotIndex).Nodup) :
    AlwaysOneWeapon items ↔ (wornRows items).length ≤ 1 :=
  ⟨once_of_alwaysOneWeapon distinct, alwaysOneWeapon_of_once⟩

/-- A worn sword beside one that is not, and equipment flags that load as
nothing. -/
theorem alwaysOneWeapon_iff_sample :
    AlwaysOneWeapon [⟨0, 3, 1, true⟩, ⟨1, 4, 1, false⟩, ⟨90, 4, 1, true⟩] :=
  (alwaysOneWeapon_iff (by decide)).mpr (by decide)

/-- Two stored rows are worn. -/
theorem not_alwaysOneWeapon : ¬AlwaysOneWeapon [⟨0, 3, 1, true⟩, ⟨1, 4, 1, true⟩] := by
  intro always
  have single := (always (ObjID.user 1) 7 {} .ascending [] _ rfl).single
  have firstWorn : _ ∈ wornRows [⟨0, 3, 1, true⟩, ⟨1, 4, 1, true⟩] := .head _
  have secondWorn : _ ∈ wornRows [⟨0, 3, 1, true⟩, ⟨1, 4, 1, true⟩] := .tail _ (.head _)
  have same := single _ _ (equippedAt_of_wornRow (by decide) firstWorn)
    (equippedAt_of_wornRow (by decide) secondWorn)
  exact absurd same (by decide)

end Inventory

end Mmorpg
