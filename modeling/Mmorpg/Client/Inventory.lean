import Mmorpg.World.Packet
import Mmorpg.Item.InventoryInvariant

/-!
# The client's inventory

The inventory cases of the client's `ProcessPacket`.  `ShowsBut` says which
slots of the mirror are still to be announced; every announcement takes one
slot off.
-/

namespace Mmorpg

/-- `g_inventory`; only valid slot indices are ever written. -/
abbrev ClientInventory := SlotIndex → ItemSlotData

namespace ClientInventory

/-- The array before the first packet, and after `fill`. -/
def blank : ClientInventory := fun _ => { slotIndex := 0 }

/-- `ApplyInventorySlot`. -/
def applyInventorySlot (inventory : ClientInventory) (slot : ItemSlotData) : ClientInventory :=
  if isValidSlotIndex slot.slotIndex then Function.update inventory slot.slotIndex slot
  else inventory

/-- The part of `ProcessPacket` that writes the inventory. -/
def processPacket (inventory : ClientInventory) (packet : ServerPacket) : ClientInventory :=
  match packet with
  | .itemListAck items => (items.take maxInventorySlots).foldl applyInventorySlot blank
  | .itemEquipAck success slot => if success then inventory.applyInventorySlot slot else inventory
  | .itemUnequipAck success slot => if success then inventory.applyInventorySlot slot else inventory
  | .itemSwapAck success slotA slotB =>
      if success then (inventory.applyInventorySlot slotA).applyInventorySlot slotB else inventory
  | .itemDiscardAck success slot => if success then inventory.applyInventorySlot slot else inventory
  | .itemUseAck success slot => if success then inventory.applyInventorySlot slot else inventory
  | .itemAcquireInf slot => inventory.applyInventorySlot slot
  | _ => inventory

end ClientInventory

/-- The packets that can write the client's inventory. -/
def ServerPacket.isInventory : ServerPacket → Bool
  | itemListAck _ => true
  | itemEquipAck .. => true
  | itemUnequipAck .. => true
  | itemSwapAck .. => true
  | itemDiscardAck .. => true
  | itemUseAck .. => true
  | itemAcquireInf _ => true
  | _ => false

theorem processPacket_of_not_isInventory {packet : ServerPacket}
    (other : packet.isInventory = false) (inventory : ClientInventory) :
    inventory.processPacket packet = inventory := by
  cases packet <;> first | rfl | contradiction

/-! ## Agreement with the server -/

/-- The slot shows the item: what the client keeps of it apart from its index. -/
structure ItemSlotData.Displays (slot : ItemSlotData) (content : Option Item) : Prop where
  itemId : slot.itemId = (fillItemSlotData slot.slotIndex content).itemId
  count : slot.count = (fillItemSlotData slot.slotIndex content).count
  equipped : slot.equipped = (fillItemSlotData slot.slotIndex content).equipped

/-- The data of a slot shows what the slot holds. -/
theorem displays_fillItemSlotData (index : SlotIndex) (content : Option Item) :
    (fillItemSlotData index content).Displays content := by
  cases content with
  | none => exact ⟨rfl, rfl, rfl⟩
  | some item => exact ⟨rfl, rfl, rfl⟩

@[simp]
theorem slotIndex_fillItemSlotData (index : SlotIndex) (content : Option Item) :
    (fillItemSlotData index content).slotIndex = index := by
  cases content <;> rfl

namespace ClientInventory

/-- The mirror agrees with the slots, `stale` ones excepted. -/
def ShowsBut (stale : List SlotIndex) (inventory : ClientInventory) (slots : Slots) : Prop :=
  ∀ index, isValidSlotIndex index = true → index ∉ stale → (inventory index).Displays (slots index)

variable {inventory : ClientInventory} {slots after : Slots} {stale : List SlotIndex}

/-- An operation makes the slots it changes stale. -/
theorem ShowsBut.change (shows_ : ShowsBut [] inventory slots)
    (untouched : ∀ index, index ∉ stale → after index = slots index) :
    ShowsBut stale inventory after := by
  intro index valid fresh
  rw [untouched index fresh]
  exact shows_ index valid List.not_mem_nil

/-- Announcing a slot makes it fresh. -/
theorem ShowsBut.announce {index : SlotIndex} (shows_ : ShowsBut (index :: stale) inventory slots) :
    ShowsBut stale (inventory.applyInventorySlot (fillItemSlotData index (slots index))) slots := by
  intro other valid fresh
  rw [applyInventorySlot, slotIndex_fillItemSlotData]
  by_cases same : other = index
  · subst same
    rw [if_pos valid, Function.update_self]
    exact displays_fillItemSlotData other (slots other)
  · have kept := shows_ other valid (List.not_mem_cons_of_ne_of_not_mem same fresh)
    split
    · rwa [Function.update_of_ne same]
    · exact kept

/-- Announcing every stale slot ends in agreement. -/
theorem ShowsBut.announceAll (shows_ : ShowsBut stale inventory slots) :
    ShowsBut []
      ((stale.map fun index => fillItemSlotData index (slots index)).foldl applyInventorySlot
        inventory) slots := by
  induction stale generalizing inventory with
  | nil => exact shows_
  | cons index rest ih => exact ih shows_.announce

/-- The blank mirror shows an empty inventory. -/
theorem showsBut_blank {slots : Slots} (empty : ∀ index, index ∉ stale → slots index = none) :
    ShowsBut stale blank slots := by
  intro index _ fresh
  rw [empty index fresh]
  exact ⟨rfl, rfl, rfl⟩

/-- A mirror that agrees everywhere shows zero exactly for the empty slots. -/
theorem ShowsBut.itemId_eq_zero_iff (shows_ : ShowsBut [] inventory slots)
    (typed : slots.All Item.Typed) {index : SlotIndex} (valid : isValidSlotIndex index = true) :
    (inventory index).itemId = 0 ↔ slots index = none := by
  rw [(shows_ index valid List.not_mem_nil).itemId]
  cases stored : slots index with
  | none => simp [fillItemSlotData]
  | some item =>
      obtain ⟨row, found, _⟩ := typed index item stored
      have listed : ∀ entry ∈ ItemTable.kRows, entry.id ≠ 0 := by decide
      have nonzero := listed row (ItemTable.find_mem found)
      rw [ItemTable.find_id found] at nonzero
      simp [fillItemSlotData, nonzero]

end ClientInventory

end Mmorpg
