import Mmorpg.Database.InventoryTable
import Mmorpg.Item.InventoryInvariant
import Mmorpg.Transition.WriteThrough

/-!
# The database mirrors the inventory

The inventory is a write-through memory over the table `Inventory`: a batch
writes the present content of its slots.  Contents are compared by item, count
and equipped flag; a mirror may read the table through a decoding, such as the
one `LoadFromDB` performs.
-/

namespace Mmorpg

/-- What memory and database both record of a slot. -/
structure SlotView where
  itemId : ItemTableId
  count : UInt16
  equipped : Bool
  deriving DecidableEq, Repr

/-- What the database keeps of an item. -/
def Item.view (item : Item) : SlotView :=
  ⟨item.itemTableId, item.count, item.isEquipped⟩

/-- What a row that was read says of an item. -/
def DbItemInfo.view (info : DbItemInfo) : SlotView :=
  ⟨info.itemId, info.count, info.equipped⟩

/-- The cast to the column's type loses nothing. -/
theorem toInt16_inj {first second : UInt16} : first.toInt16 = second.toInt16 ↔ first = second := by
  constructor
  · intro same
    simpa using congrArg Int16.toUInt16 same
  · rintro rfl
    rfl

namespace InventoryTable

/-- The stored row of one slot of a player. -/
def storedAt (playerId : Int) (table : InventoryTable) (index : SlotIndex) : Option SlotView :=
  (table.find (playerId, index.toInt16)).map fun row => (extractRow row).view

theorem storedAt_writeHalf (inventory : Inventory) (table : InventoryTable)
    (written index : SlotIndex) :
    (table.writeHalf inventory.playerId (slotColumns (inventory.describe written))).storedAt
        inventory.playerId index =
      if index = written then (inventory.slots written).map Item.view
      else table.storedAt inventory.playerId index := by
  cases stored : inventory.slots written with
  | none =>
      simp only [storedAt, writeHalf, slotColumns, Inventory.describe, stored, Bool.false_eq_true,
        if_false, find_delete, Prod.mk.injEq, toInt16_inj, true_and]
      by_cases here : index = written <;> simp [here]
  | some item =>
      simp only [storedAt, writeHalf, slotColumns, Inventory.describe, stored, if_true,
        find_upsert, InventoryRow.key, Prod.mk.injEq, toInt16_inj, true_and]
      by_cases here : index = written <;> simp [here, extractRow, DbItemInfo.view, Item.view]

/-- A request about a slot stores the slot as it is. -/
theorem storedAt_slotRequest (inventory : Inventory) (table : InventoryTable)
    (written index : SlotIndex) :
    (table.processItem (inventory.slotRequest written)).storedAt inventory.playerId index =
      if index = written then (inventory.slots written).map Item.view
      else table.storedAt inventory.playerId index := by
  rw [← storedAt_writeHalf]
  cases stored : inventory.slots written with
  | none =>
      simp [processItem, Inventory.slotRequest, stored, deleteInventorySlot, writeHalf,
        slotColumns, Inventory.describe]
  | some item =>
      simp [processItem, Inventory.slotRequest, stored, saveInventorySlot, writeHalf,
        slotColumns, Inventory.describe]

/-- Processing a batch writes the present content of its slots and no other;
the order of the two halves does not matter. -/
theorem storedAt_request (inventory : Inventory) (table : InventoryTable)
    (batch : Inventory.SaveBatch) (distinct : batch.slots.Nodup) (index : SlotIndex) :
    (table.processItem (batch.request inventory)).storedAt inventory.playerId index =
      if index ∈ batch.slots then (inventory.slots index).map Item.view
      else table.storedAt inventory.playerId index := by
  cases batch with
  | one written =>
      rw [Inventory.SaveBatch.request, storedAt_slotRequest]
      by_cases here : index = written <;> simp [Inventory.SaveBatch.slots, here]
  | two a b =>
      have different : a ≠ b := by simpa [Inventory.SaveBatch.slots] using distinct
      simp only [Inventory.SaveBatch.request, processItem, saveTwoInventorySlots]
      by_cases atA : index = a
      · have notB : index ≠ b := fun same => different (atA.symm.trans same)
        split <;> simp [Inventory.SaveBatch.slots, storedAt_writeHalf, atA, different]
      · split <;> by_cases atB : index = b <;>
          simp [Inventory.SaveBatch.slots, storedAt_writeHalf, atA, atB, different.symm]

end InventoryTable

namespace Inventory

/-! ## Mirrors -/

/-- A decoding of stored slots that leaves the contents of well typed
inventories as they are. -/
structure Decoding where
  decode : SlotIndex → Option SlotView → Option SlotView
  faithful : ∀ slots : Slots, slots.KeysValid → slots.All Item.Typed →
    ∀ index, decode index ((slots index).map Item.view) = (slots index).map Item.view

/-- The inventory is well typed and the decoded table holds its contents. -/
structure Mirrors (decoding : Decoding) (ownerId : ObjID) (playerId : Int)
    (inventory : Inventory) (table : InventoryTable) : Prop where
  owner : inventory.ownerId = ownerId
  player : inventory.playerId = playerId
  keys : inventory.slots.KeysValid
  typed : inventory.slots.All Item.Typed
  agrees : ∀ index, decoding.decode index (table.storedAt playerId index) =
    (inventory.slots index).map Item.view

variable {decoding : Decoding} {ownerId : ObjID} {playerId : Int}

/-- A successful operation turns a mirror of the old inventory into one of the
new inventory. -/
theorem Mirrors.succeeded {before after : Inventory} {batches : List SaveBatch}
    {table : InventoryTable} (mirrored : Mirrors decoding ownerId playerId before table)
    (succeeded : Succeeded before after batches) :
    Mirrors decoding ownerId playerId after
      (Transition.replay InventoryTable.processItem (batches.map (SaveBatch.request after))
        table) := by
  obtain ⟨change, persisted⟩ := succeeded
  have keys := change.keysValid mirrored.keys
  have typed := change.all (typed_rule before.ownerId) mirrored.typed
  have samePlayer : after.playerId = playerId := persisted.playerId.trans mirrored.player
  refine ⟨persisted.ownerId.trans mirrored.owner, samePlayer, keys, typed, ?_⟩
  rw [Transition.replay, List.foldl_map]
  intro index
  let read := fun (store : InventoryTable) key =>
    decoding.decode key (store.storedAt playerId key)
  let view := fun key => (after.slots key).map Item.view
  have writes : ∀ batch ∈ batches, ∀ (store : InventoryTable) (key : SlotIndex),
      read (store.processItem (batch.request after)) key =
        if key ∈ batch.slots then view key else read store key := by
    intro batch member store key
    simp only [read, view]
    rw [← samePlayer, InventoryTable.storedAt_request after store batch
      (persisted.distinct batch member)]
    by_cases covered : key ∈ batch.slots
    · rw [if_pos covered, if_pos covered]
      exact decoding.faithful after.slots keys typed key
    · rw [if_neg covered, if_neg covered]
  have agree : ∀ key, (∀ batch ∈ batches, key ∉ batch.slots) → read table key = view key := by
    intro key outside
    simp only [read, view]
    rw [mirrored.agrees key, persisted.untouched key outside]
  exact Transition.read_replay read SaveBatch.slots view batches writes table agree index

/-- The inventory writes through to the table. -/
theorem writesThrough (decoding : Decoding) (ownerId : ObjID) (playerId : Int) :
    Transition.WritesThrough callStep Inventory.issued InventoryTable.processItem
      (Mirrors decoding ownerId playerId) := by
  intro call before after taken
  rcases Option.map_eq_some_iff.mp taken with ⟨⟨flag, result⟩, ran, rfl⟩
  rcases InventoryOp.run_cases ran with ⟨_, rfl⟩ | ⟨_, batches, succeeded, _⟩
  · exact ⟨[], by simp, fun _ mirrored => mirrored⟩
  · exact ⟨_, succeeded.2.issued, fun _ mirrored => mirrored.succeeded succeeded⟩

end Inventory

/-! ## Loading from the table -/

namespace InventoryTable

/-- A table holding the given rows of one player. -/
def ofRows (playerId : Int) (items : List DbItemInfo)
    (distinct : (items.map DbItemInfo.slotIndex).Nodup) : InventoryTable where
  rows := items.map fun info =>
    ⟨playerId, info.slotIndex.toInt16, info.itemId.toInt16, info.count.toInt16, info.equipped⟩
  primaryKey := by
    rw [List.map_map]
    have keyed := distinct.map (f := fun slot : SlotIndex => (playerId, slot.toInt16))
      fun first second same => toInt16_inj.mp (Prod.mk.inj same).2
    rwa [List.map_map] at keyed

/-- The rows that made a table are read back from it. -/
theorem extracts_ofRows (playerId : Int) (items : List DbItemInfo)
    (distinct : (items.map DbItemInfo.slotIndex).Nodup) :
    (ofRows playerId items distinct).Extracts playerId items := by
  have restored : (ofRows playerId items distinct).extractInventory playerId = items := by
    rw [extractInventory, getInventory, ofRows, List.filter_map, List.map_map, List.filter_eq_self.mpr (by simp)]
    exact List.map_id'' (fun info => by simp [extractRow]) items
  rw [Extracts, restored]

section Extract

variable {table : InventoryTable} {playerId : Int} {items : List DbItemInfo}

theorem mem_getInventory_iff {row : InventoryRow} :
    row ∈ table.getInventory playerId ↔ row ∈ table.rows ∧ row.playerId = playerId := by
  simp [getInventory]

theorem Extracts.distinct (extracted : table.Extracts playerId items) :
    (items.map DbItemInfo.slotIndex).Nodup := by
  rw [(extracted.map DbItemInfo.slotIndex).nodup_iff, extractInventory, List.map_map]
  have keys : ((table.getInventory playerId).map InventoryRow.key).Nodup :=
    table.primaryKey.sublist (List.filter_sublist.map _)
  rw [List.nodup_map_iff_inj_on keys.of_map]
  intro first firstMember second secondMember same
  rw [mem_getInventory_iff] at firstMember secondMember
  apply List.inj_on_of_nodup_map table.primaryKey firstMember.1 secondMember.1
  apply Prod.ext
  · exact firstMember.2.trans secondMember.2.symm
  · simpa [InventoryRow.key, extractRow] using congrArg UInt16.toInt16 same

theorem Extracts.mem_iff (extracted : table.Extracts playerId items) {info : DbItemInfo} :
    info ∈ items ↔ ∃ row ∈ table.rows, row.playerId = playerId ∧ extractRow row = info := by
  rw [List.Perm.mem_iff extracted, extractInventory, List.mem_map]
  simp only [mem_getInventory_iff, and_assoc]

/-- The fetched row of a slot is the stored one. -/
theorem Extracts.find (extracted : table.Extracts playerId items) (index : SlotIndex) :
    (items.find? fun info => info.slotIndex == index) =
      (table.find (playerId, index.toInt16)).map extractRow := by
  apply Option.ext
  intro info
  rw [find?_key_eq_some_iff DbItemInfo.slotIndex extracted.distinct, Option.map_eq_some_iff,
    extracted.mem_iff]
  constructor
  · rintro ⟨⟨row, member, player, rfl⟩, rfl⟩
    refine ⟨row, ?_, rfl⟩
    rw [find_eq_some_iff]
    exact ⟨member, Prod.ext player (by simp [InventoryRow.key, extractRow])⟩
  · rintro ⟨row, found, rfl⟩
    obtain ⟨member, key⟩ := (table.find_eq_some_iff _ _).mp found
    obtain ⟨player, slot⟩ := Prod.mk.inj key
    exact ⟨⟨row, member, player, rfl⟩, by simp [extractRow, slot]⟩

end Extract

end InventoryTable

namespace Inventory

/-- What `LoadFromDB` makes of a stored slot. -/
def loadDecode (index : SlotIndex) (stored : Option SlotView) : Option SlotView :=
  stored.bind fun view =>
    if isValidSlotIndex index then
      (ItemTable.find view.itemId).map fun row =>
        ⟨view.itemId, view.count, decide (row.type = .eEquipment) && view.equipped⟩
    else none

/-- What is loaded is what was stored, worn only if it is equipment. -/
theorem loadedItem_view (ownerId : ObjID) (info : DbItemInfo) :
    (loadedItem ownerId info).map Item.view =
      (ItemTable.find info.itemId).map fun row =>
        ⟨info.itemId, info.count, decide (row.type = .eEquipment) && info.equipped⟩ := by
  cases loaded : loadedItem ownerId info with
  | none =>
      have missing : ItemTable.find info.itemId = none := by
        rw [← makeNewItem_eq_none_iff info.itemId info.count]
        simpa [loadedItem] using loaded
      simp [missing]
  | some item =>
      obtain ⟨sameId, sameCount, ⟨row, found, class_⟩, flag⟩ := loadedItem_eq_some loaded
      rw [sameId] at found
      simp [found, Item.view, sameId, sameCount, flag, class_]

/-- `LoadFromDB` is a faithful decoding. -/
def loading : Decoding where
  decode := loadDecode
  faithful slots keys typed index := by
    cases stored : slots index with
    | none => rfl
    | some item =>
        rcases typed index item stored with ⟨row, found, class_⟩
        have valid := keys index (by simp [stored])
        have flag : (item.isEquipment && item.isEquipped) = item.isEquipped := by
          by_cases worn : item.isEquipped = true
          · simp [Item.isEquipment_of_isEquipped worn]
          · simp [worn]
        simp [loadDecode, Item.view, valid, found, ← class_, flag]

section Reload

variable {table : InventoryTable} {ownerId : ObjID} {playerId : Int} {items : List DbItemInfo}

/-- Loading a player's rows shows the decoded table. -/
theorem loaded_view (extracted : table.Extracts playerId items) (order : SlotOrder) (stat : Stat)
    (index : SlotIndex) :
    (((fresh ownerId playerId stat).loadFromDB order items).slots index).map Item.view =
      loadDecode index (table.storedAt playerId index) := by
  rw [loadFromDB_fresh_slots extracted.distinct, loadedAt, extracted.find,
    InventoryTable.storedAt]
  by_cases valid : isValidSlotIndex index
  · cases found : table.find (playerId, index.toInt16) with
    | none => simp [loadDecode]
    | some row =>
        simp only [valid, if_true, Option.map_some, Option.bind_some, loadedItem_view,
          loadDecode]
        rfl
  · simp [valid, loadDecode]

/-- After loading, inventory and table agree. -/
theorem loaded_mirrors (extracted : table.Extracts playerId items) (order : SlotOrder)
    (stat : Stat) :
    Mirrors loading ownerId playerId ((fresh ownerId playerId stat).loadFromDB order items)
      table := by
  have frame := foldl_loadRow_frame items (fresh ownerId playerId stat)
  exact
    { owner := frame.1
      player := frame.2.1
      keys := loaded_keysValid extracted.distinct
      typed := loaded_typed extracted.distinct
      agrees := fun index => (loaded_view extracted order stat index).symm }

theorem loaded_issued (order : SlotOrder) (stat : Stat) :
    ((fresh ownerId playerId stat).loadFromDB order items).issued = [] :=
  (foldl_loadRow_frame items (fresh ownerId playerId stat)).2.2

end Reload

/-- No call aborts on an inventory of known items. -/
theorem callStep_typed (call : InventoryCall) {inventory : Inventory}
    (typed : inventory.slots.All Item.Typed) :
    ∃ after, callStep call inventory = some after ∧ after.slots.All Item.Typed := by
  rcases call.2.run_completes call.1 typed with ⟨flag, after, ran⟩
  exact ⟨after, by rw [callStep, ran]; rfl,
    InventoryOp.all_of_run ran (typed_rule inventory.ownerId) typed⟩

/-- Whatever rows a player has, every sequence of operations from the loaded
inventory completes, and after the issued requests were processed a reload
shows, slot by slot, what memory holds. -/
theorem database_mirrors_inventory (ownerId : ObjID) (playerId : Int) (stat : Stat)
    (loadOrder : SlotOrder) (rows : List DbItemInfo)
    (distinct : (rows.map DbItemInfo.slotIndex).Nodup) (calls : List InventoryCall) :
    (∃ table : InventoryTable, table.Extracts playerId rows) ∧
    ∃ inventory, runOps calls ((fresh ownerId playerId stat).loadFromDB loadOrder rows) =
        some inventory ∧
      ∀ table : InventoryTable, table.Extracts playerId rows →
        ∀ (reloadOrder : SlotOrder) (reloaded : List DbItemInfo),
          (Transition.replay InventoryTable.processItem inventory.issued table).Extracts playerId
            reloaded →
          ∀ index, (((fresh ownerId playerId stat).loadFromDB reloadOrder reloaded).slots
              index).map Item.view = (inventory.slots index).map Item.view := by
  constructor
  · exact ⟨_, InventoryTable.extracts_ofRows playerId rows distinct⟩
  · rcases Transition.run_isSome (fun call _ typed => callStep_typed call typed) calls
      (loaded_typed distinct) with ⟨inventory, ran, _⟩
    refine ⟨inventory, ran, ?_⟩
    intro table extracted reloadOrder reloaded after index
    have initially : Mirrors loading ownerId playerId _ table :=
      loaded_mirrors extracted loadOrder stat
    have mirrored : Mirrors loading ownerId playerId inventory
        (Transition.replay InventoryTable.processItem inventory.issued table) := by
      apply (writesThrough loading ownerId playerId).mirrors_of_run ran
      rw [loaded_issued]
      exact initially
    rw [loaded_view after reloadOrder stat index]
    exact mirrored.agrees index

/-- Two equipped rows, an unknown item and a slot out of range. -/
theorem database_mirrors_inventory_sample :
    let rows : List DbItemInfo := [⟨0, 3, 1, true⟩, ⟨1, 4, 7, true⟩, ⟨2, 900, 5, false⟩,
      ⟨40000, 1, 65535, false⟩]
    let start := (fresh (ObjID.user 1) 7 {}).loadFromDB SlotOrder.ascending rows
    let calls : List InventoryCall := [(SlotOrder.ascending, .unequip 0),
      (SlotOrder.ascending, .equip 0), (SlotOrder.ascending, .swapSlots 0 9)]
    (∃ table : InventoryTable, table.Extracts 7 rows) ∧
    ∃ inventory, runOps calls start = some inventory ∧
      ∀ table : InventoryTable, table.Extracts 7 rows →
        ∀ (reloadOrder : SlotOrder) (reloaded : List DbItemInfo),
          (Transition.replay InventoryTable.processItem inventory.issued table).Extracts 7
            reloaded →
          ∀ index, (((fresh (ObjID.user 1) 7 {}).loadFromDB reloadOrder reloaded).slots
              index).map Item.view = (inventory.slots index).map Item.view := by
  intro rows start calls
  exact database_mirrors_inventory (ObjID.user 1) 7 {} SlotOrder.ascending rows (by decide) calls

end Inventory

end Mmorpg
