import Mmorpg.Item.Inventory
import Mathlib.Data.List.Nodup

/-!
# The inventory table

The table `Inventory` and its stored procedures (`setup.sql`), and the
connection calls that reach them (`DBConnection.cpp`).  Slot, item and count
columns are SMALLINT: every call casts the 16-bit words of the server to signed
values and back.
-/

namespace Mmorpg

/-- Searching a list for a key that no two entries share. -/
theorem find?_key_eq_some_iff {α κ : Type*} [BEq κ] [LawfulBEq κ] (keyOf : α → κ) {entries : List α}
    (distinct : (entries.map keyOf).Nodup) {key : κ} {entry : α} :
    (entries.find? fun other => keyOf other == key) = some entry ↔
      entry ∈ entries ∧ keyOf entry = key := by
  constructor
  · intro found
    exact ⟨List.mem_of_find?_eq_some found, by simpa using List.find?_some found⟩
  · rintro ⟨member, sameKey⟩
    cases found : entries.find? fun other => keyOf other == key with
    | none =>
        have missing := List.find?_eq_none.mp found entry member
        simp [sameKey] at missing
    | some other =>
        have otherMember := List.mem_of_find?_eq_some found
        have otherKey : keyOf other = key := by simpa using List.find?_some found
        rw [List.inj_on_of_nodup_map distinct otherMember member (otherKey.trans sameKey.symm)]

/-- A row of table `Inventory`. -/
structure InventoryRow where
  playerId : Int
  slotIndex : Int16
  itemId : Int16
  count : Int16
  equipped : Bool
  deriving DecidableEq, Repr

/-- The columns of the primary key. -/
def InventoryRow.key (row : InventoryRow) : Int × Int16 :=
  (row.playerId, row.slotIndex)

/-- The table with its primary key constraint. -/
structure InventoryTable where
  rows : List InventoryRow
  primaryKey : (rows.map InventoryRow.key).Nodup

namespace InventoryTable

/-- The row under a primary key. -/
def find (table : InventoryTable) (key : Int × Int16) : Option InventoryRow :=
  table.rows.find? fun row => row.key == key

/-- The primary key makes the row under a key unique. -/
theorem find_eq_some_iff (table : InventoryTable) (key : Int × Int16) (row : InventoryRow) :
    table.find key = some row ↔ row ∈ table.rows ∧ row.key = key :=
  find?_key_eq_some_iff InventoryRow.key table.primaryKey

theorem find_eq_none_iff (table : InventoryTable) (key : Int × Int16) :
    table.find key = none ↔ ∀ row ∈ table.rows, row.key ≠ key := by
  simp [find]

/-! ## Stored procedures -/

/-- UPDATE the row of a key, or INSERT it if no row was updated: the body of
`SaveInventorySlot` and of each half of `SaveTwoInventorySlots`. -/
def upsert (row : InventoryRow) (table : InventoryTable) : InventoryTable :=
  if updated : ∃ old ∈ table.rows, old.key = row.key then
    { rows := table.rows.map fun old => if old.key = row.key then row else old
      primaryKey := by
        have sameKeys : (table.rows.map fun old => if old.key = row.key then row else old).map
            InventoryRow.key = table.rows.map InventoryRow.key := by
          rw [List.map_map]
          apply List.map_congr_left
          intro old _
          simp only [Function.comp_apply]
          split
          · next same => exact same.symm
          · rfl
        exact sameKeys ▸ table.primaryKey }
  else
    { rows := table.rows ++ [row]
      primaryKey := by
        rw [List.map_append, List.map_singleton]
        rw [List.nodup_append]
        refine ⟨table.primaryKey, List.nodup_singleton _, ?_⟩
        intro key member last lastMember same
        rcases List.mem_map.mp member with ⟨old, oldMember, rfl⟩
        exact updated ⟨old, oldMember, same.trans (List.mem_singleton.mp lastMember)⟩ }

/-- DELETE the row of a key. -/
def delete (key : Int × Int16) (table : InventoryTable) : InventoryTable where
  rows := table.rows.filter fun row => row.key ≠ key
  primaryKey := table.primaryKey.sublist (List.filter_sublist.map _)

/-- An upsert changes the row under its key and no other. -/
theorem find_upsert (row : InventoryRow) (table : InventoryTable) (key : Int × Int16) :
    (table.upsert row).find key = if key = row.key then some row else table.find key := by
  by_cases same : key = row.key
  · rw [if_pos same, find_eq_some_iff]
    refine ⟨?_, same.symm⟩
    unfold upsert
    split
    · next updated =>
      rcases updated with ⟨old, member, oldKey⟩
      exact List.mem_map.mpr ⟨old, member, if_pos oldKey⟩
    · simp
  · rw [if_neg same]
    apply Option.ext
    intro found
    rw [find_eq_some_iff, find_eq_some_iff]
    apply and_congr_left
    intro foundKey
    have different : found.key ≠ row.key := foundKey ▸ same
    unfold upsert
    split
    · constructor
      · intro member
        rcases List.mem_map.mp member with ⟨old, oldMember, changed⟩
        split at changed
        · exact absurd (congrArg InventoryRow.key changed.symm) different
        · exact changed ▸ oldMember
      · exact fun member => List.mem_map.mpr ⟨found, member, if_neg different⟩
    · rw [List.mem_append, List.mem_singleton, or_iff_left]
      exact fun isRow => different (congrArg InventoryRow.key isRow)

/-- A deletion removes the row under its key and no other. -/
theorem find_delete (deleted : Int × Int16) (table : InventoryTable) (key : Int × Int16) :
    (table.delete deleted).find key = if key = deleted then none else table.find key := by
  by_cases same : key = deleted
  · rw [if_pos same, find_eq_none_iff]
    intro row member
    have kept := (List.mem_filter.mp member).2
    exact same ▸ of_decide_eq_true kept
  · rw [if_neg same]
    apply Option.ext
    intro found
    rw [find_eq_some_iff, find_eq_some_iff, delete, List.mem_filter]
    constructor
    · rintro ⟨⟨member, _⟩, foundKey⟩
      exact ⟨member, foundKey⟩
    · rintro ⟨member, foundKey⟩
      exact ⟨⟨member, decide_eq_true (foundKey ▸ same)⟩, foundKey⟩

/-- The five column parameters of one half of `SaveTwoInventorySlots`. -/
structure SlotColumns where
  slotIndex : Int16
  has : Bool
  itemId : Int16
  count : Int16
  equipped : Bool

/-- One half of the transaction: upsert or delete. -/
def writeHalf (playerId : Int) (half : SlotColumns) (table : InventoryTable) : InventoryTable :=
  if half.has then
    table.upsert ⟨playerId, half.slotIndex, half.itemId, half.count, half.equipped⟩
  else
    table.delete (playerId, half.slotIndex)

/-- Procedure `SaveInventorySlot`. -/
def saveInventorySlot (playerId : Int) (slotIndex itemId count : Int16) (equipped : Bool)
    (table : InventoryTable) : InventoryTable :=
  table.upsert ⟨playerId, slotIndex, itemId, count, equipped⟩

/-- Procedure `DeleteInventorySlot`. -/
def deleteInventorySlot (playerId : Int) (slotIndex : Int16) (table : InventoryTable) :
    InventoryTable :=
  table.delete (playerId, slotIndex)

/-- Procedure `SaveTwoInventorySlots`: the half with the smaller signed slot
number is written first. -/
def saveTwoInventorySlots (playerId : Int) (a b : SlotColumns) (table : InventoryTable) :
    InventoryTable :=
  if a.slotIndex > b.slotIndex then
    (table.writeHalf playerId b).writeHalf playerId a
  else
    (table.writeHalf playerId a).writeHalf playerId b

/-- Procedure `GetInventory`; the order of the result set is not specified. -/
def getInventory (playerId : Int) (table : InventoryTable) : List InventoryRow :=
  table.rows.filter fun row => row.playerId = playerId

/-! ## Connection calls -/

/-- The casts of `ExtractInventory` on one fetched row. -/
def extractRow (row : InventoryRow) : DbItemInfo :=
  { slotIndex := row.slotIndex.toUInt16
    itemId := row.itemId.toUInt16
    count := row.count.toUInt16
    equipped := row.equipped }

/-- `ExtractInventory`, fetching the rows in table order. -/
def extractInventory (playerId : Int) (table : InventoryTable) : List DbItemInfo :=
  (table.getInventory playerId).map extractRow

/-- The rows of a player may be fetched in this order. -/
def Extracts (table : InventoryTable) (playerId : Int) (items : List DbItemInfo) : Prop :=
  items.Perm (table.extractInventory playerId)

/-- The casts of `SaveTwoInventorySlots` on one half. -/
def slotColumns (save : DbItemSlotSave) : SlotColumns :=
  { slotIndex := save.slotIndex.toInt16
    has := save.hasItem
    itemId := save.itemId.toInt16
    count := save.count.toInt16
    equipped := save.equipped }

/-- The item branches of `ProcessEvent`, every call succeeding. -/
def processItem (request : ItemRequest) (table : InventoryTable) : InventoryTable :=
  match request with
  | .saveItem playerId slotIndex itemId count equipped =>
      table.saveInventorySlot playerId slotIndex.toInt16 itemId.toInt16 count.toInt16 equipped
  | .deleteItem playerId slotIndex => table.deleteInventorySlot playerId slotIndex.toInt16
  | .saveTwoItems playerId a b =>
      table.saveTwoInventorySlots playerId (slotColumns a) (slotColumns b)

end InventoryTable

end Mmorpg
