import Mmorpg.Object.Core
import Mathlib.Data.List.Basic

/-!
# Item data, items and drops

The static item table (`ItemTable.cpp`), the item factory (`Item.cpp`) and the
weighted drop table (`DropTable.cpp`).  Item identifiers, counts and slot
indices are the 16-bit words of the source.
-/

namespace Mmorpg

/-- The number of an item in the table, a `uint16`. -/
abbrev ItemTableId := UInt16

/-- Reserved identifier for "no item". -/
def itemTableIdNone : ItemTableId := 0

/-- The kinds of items. -/
inductive ItemType
  | eConsumable | eEquipment | eMaterial | eEtc
  deriving DecidableEq, Repr

/-- The grades of items. -/
inductive ItemGrade
  | eNone | eRare | eEpic | eUnique | eLegendary
  deriving DecidableEq, Repr

/-- One row of the static item table. -/
structure ItemTableRow where
  id : ItemTableId
  type : ItemType
  maxStack : UInt16
  name : String
  grade : ItemGrade
  attackBonus : Nat
  healAmount : Nat
  deriving DecidableEq, Repr

namespace ItemTable

/-- The rows of the item table. -/
def kRows : List ItemTableRow :=
  [ ⟨1, .eConsumable, 99, "Health Potion", .eNone, 0, 30⟩,
    ⟨2, .eEquipment, 1, "Wooden Sword", .eNone, 3, 0⟩,
    ⟨3, .eEquipment, 1, "Iron Sword", .eRare, 6, 0⟩,
    ⟨4, .eEquipment, 1, "Steel Sword", .eEpic, 12, 0⟩,
    ⟨5, .eEquipment, 1, "Flame Sword", .eUnique, 22, 0⟩,
    ⟨6, .eEquipment, 1, "Dragon Slayer", .eLegendary, 40, 0⟩ ]

/-- The row of an identifier; unknown identifiers have none. -/
def find (id : ItemTableId) : Option ItemTableRow :=
  kRows.find? fun row => row.id == id

theorem find_mem {id : ItemTableId} {row : ItemTableRow} (found : find id = some row) :
    row ∈ kRows :=
  List.mem_of_find?_eq_some found

theorem find_id {id : ItemTableId} {row : ItemTableRow} (found : find id = some row) :
    row.id = id := by
  simpa [find] using List.find?_some found

/-- Every row stacks at least one item. -/
theorem one_le_maxStack {id : ItemTableId} {row : ItemTableRow} (found : find id = some row) :
    1 ≤ row.maxStack.toNat := by
  have every : ∀ entry ∈ kRows, 1 ≤ entry.maxStack.toNat := by decide
  exact every row (find_mem found)

end ItemTable

/-! ## Items -/

/-- Dynamic class of an item; only equipment has the equipped flag. -/
inductive ItemClass
  | consumable
  | equipment (equipped : Bool)
  deriving DecidableEq, Repr

/-- An item instance, in an inventory slot or on the ground. -/
structure Item where
  itemTableId : ItemTableId
  count : UInt16
  cls : ItemClass
  name : String
  ownerId : ObjID := ObjID.npos
  lootPriorityOwner : ObjID := ObjID.npos
  deriving DecidableEq, Repr

namespace Item

/-- Equipment currently worn. -/
def isEquipped (item : Item) : Bool :=
  match item.cls with
  | .equipment equipped => equipped
  | .consumable => false

/-- The dynamic cast to `EquipmentItem` succeeds. -/
def isEquipment (item : Item) : Bool :=
  match item.cls with
  | .equipment _ => true
  | .consumable => false

/-- `Equip` and `Unequip`; a consumable has no flag to set. -/
def setEquipped (equipped : Bool) (item : Item) : Item :=
  match item.cls with
  | .equipment _ => { item with cls := .equipment equipped }
  | .consumable => item

/-- Items on the ground have no owner. -/
def isOnGround (item : Item) : Bool :=
  item.ownerId == ObjID.npos

/-- `AddCount`, in 16-bit arithmetic. -/
def addCount (amount : UInt16) (item : Item) : Item :=
  { item with count := item.count + amount }

/-- Remove a quantity, stopping at zero. -/
def removeCount (amount : UInt16) (item : Item) : Item :=
  { item with count := if amount ≥ item.count then 0 else item.count - amount }

@[simp]
theorem setEquipped_itemTableId (equipped : Bool) (item : Item) :
    (item.setEquipped equipped).itemTableId = item.itemTableId := by
  unfold setEquipped
  split <;> rfl

@[simp]
theorem setEquipped_count (equipped : Bool) (item : Item) :
    (item.setEquipped equipped).count = item.count := by
  unfold setEquipped
  split <;> rfl

@[simp]
theorem setEquipped_isEquipment (equipped : Bool) (item : Item) :
    (item.setEquipped equipped).isEquipment = item.isEquipment := by
  unfold setEquipped
  split
  · next cls => simp [isEquipment, cls]
  · rfl

theorem setEquipped_isEquipped (equipped : Bool) (item : Item) :
    (item.setEquipped equipped).isEquipped = (item.isEquipment && equipped) := by
  unfold setEquipped
  split
  · next cls => simp [isEquipment, isEquipped, cls]
  · next cls => simp [isEquipment, isEquipped, cls]

/-- Only equipment is ever equipped. -/
theorem isEquipment_of_isEquipped {item : Item} (equipped : item.isEquipped = true) :
    item.isEquipment = true := by
  cases cls : item.cls with
  | consumable => simp [isEquipped, cls] at equipped
  | equipment flag => simp [isEquipment, cls]

theorem removeCount_toNat (amount : UInt16) (item : Item) :
    (item.removeCount amount).count.toNat = item.count.toNat - amount.toNat := by
  simp only [removeCount]
  split
  · next covers =>
      have bound : item.count.toNat ≤ amount.toNat := UInt16.le_iff_toNat_le.mp covers
      simp only [UInt16.toNat_zero]
      omega
  · next short =>
      have bound : amount ≤ item.count := by
        rw [UInt16.le_iff_toNat_le]
        have notBound : ¬item.count.toNat ≤ amount.toNat :=
          fun bound => short (UInt16.le_iff_toNat_le.mpr bound)
        omega
      exact UInt16.toNat_sub_of_le _ _ bound

end Item

/-- `MakeNewItem`: an unlisted identifier makes nothing, and the table row
decides the dynamic class. -/
def makeNewItem (itemId : ItemTableId) (count : UInt16) : Option Item :=
  (ItemTable.find itemId).map fun row =>
    { itemTableId := itemId
      count := count
      cls := if row.type = .eEquipment then .equipment false else .consumable
      name := row.name }

theorem makeNewItem_eq_some {itemId : ItemTableId} {row : ItemTableRow} (count : UInt16)
    (found : ItemTable.find itemId = some row) :
    makeNewItem itemId count = some
      { itemTableId := itemId
        count := count
        cls := if row.type = .eEquipment then .equipment false else .consumable
        name := row.name } := by
  simp [makeNewItem, found]

theorem makeNewItem_eq_none_iff (itemId : ItemTableId) (count : UInt16) :
    makeNewItem itemId count = none ↔ ItemTable.find itemId = none := by
  simp [makeNewItem]

/-! ## Drops -/

namespace DropTable

/-- An entry of the drop table.  Type and grade repeat those of the item table;
the quantity is drawn from a closed range. -/
structure DropTableEntry where
  id : ItemTableId
  type : ItemType
  grade : ItemGrade
  weight : Nat
  minCount : UInt16
  maxCount : UInt16
  deriving DecidableEq, Repr

/-- What monsters drop, with weights. -/
def kEntries : List DropTableEntry :=
  [ ⟨1, .eConsumable, .eNone, 150, 1, 3⟩,
    ⟨2, .eEquipment, .eNone, 80, 1, 1⟩,
    ⟨3, .eEquipment, .eRare, 50, 1, 1⟩,
    ⟨4, .eEquipment, .eEpic, 15, 1, 1⟩,
    ⟨5, .eEquipment, .eUnique, 4, 1, 1⟩,
    ⟨6, .eEquipment, .eLegendary, 1, 1, 1⟩ ]

/-- A roll that produced an item. -/
structure RollResult where
  itemId : ItemTableId
  count : UInt16
  deriving DecidableEq, Repr

/-- The weight of "no drop". -/
def kNoDropWeight : Nat := 700

/-- `BuildWeights`: index zero is "no drop", the entries follow. -/
def buildWeights : List Nat :=
  kNoDropWeight :: kEntries.map DropTableEntry.weight

/-- A draw of `std::discrete_distribution`: the index of the weight that a point
below the sum of the weights falls on. -/
def discrete : List Nat → Nat → Nat
  | [], _ => 0
  | weight :: rest, point => if point < weight then 0 else discrete rest (point - weight) + 1

/-- `Roll` on the two random draws it makes: `point` decides the index of the
weighted distribution and `draw` the quantity in the entry's closed range. -/
def roll (point draw : Nat) : Option RollResult :=
  let index := discrete buildWeights (point % buildWeights.foldl Nat.add 0)
  if index = 0 then none
  else
    kEntries[index - 1]?.map fun entry =>
      ⟨entry.id, entry.minCount +
        UInt16.ofNat (draw % (entry.maxCount.toNat - entry.minCount.toNat + 1))⟩

/-- The startup check `ValidateDropTable` passes. -/
theorem validateDropTable : ∀ entry ∈ kEntries, ∃ row, ItemTable.find entry.id = some row ∧
    row.type = entry.type ∧ row.grade = entry.grade ∧ 1 ≤ entry.minCount ∧
    entry.minCount ≤ entry.maxCount ∧ entry.maxCount ≤ row.maxStack := by
  intro entry listed
  simp only [kEntries, List.mem_cons, List.not_mem_nil, or_false] at listed
  rcases listed with rfl | rfl | rfl | rfl | rfl | rfl <;>
    exact ⟨_, rfl, rfl, rfl, by decide, by decide, by decide⟩

/-- A rolled item is in the item table, so `MakeNewItem` succeeds, and its
quantity fits one stack. -/
theorem roll_listed {point draw : Nat} {result : RollResult}
    (rolled : roll point draw = some result) :
    ∃ row, ItemTable.find result.itemId = some row ∧ 1 ≤ result.count ∧
      result.count ≤ row.maxStack := by
  unfold roll at rolled
  dsimp only at rolled
  split at rolled
  · contradiction
  · obtain ⟨entry, entryAt, rfl⟩ := Option.map_eq_some_iff.mp rolled
    obtain ⟨row, found, _, _, positive, ordered, fits⟩ :=
      validateDropTable entry (List.mem_of_getElem? entryAt)
    have range : draw % (entry.maxCount.toNat - entry.minCount.toNat + 1) <
        entry.maxCount.toNat - entry.minCount.toNat + 1 := Nat.mod_lt draw (Nat.succ_pos _)
    have bound := entry.maxCount.toNat_lt
    rw [UInt16.le_iff_toNat_le] at positive ordered fits
    have count : (entry.minCount + UInt16.ofNat
        (draw % (entry.maxCount.toNat - entry.minCount.toNat + 1))).toNat =
          entry.minCount.toNat + draw % (entry.maxCount.toNat - entry.minCount.toNat + 1) := by
      rw [UInt16.toNat_add, UInt16.toNat_ofNat']
      omega
    refine ⟨row, found, ?_, ?_⟩
    · rw [UInt16.le_iff_toNat_le, count]
      omega
    · rw [UInt16.le_iff_toNat_le, count]
      omega

end DropTable

end Mmorpg
