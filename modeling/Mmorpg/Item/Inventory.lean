import Mmorpg.Item.ItemTable
import Mmorpg.Transition.Run
import Mathlib.Logic.Function.Basic

/-!
# The inventory of one player

`Inventory.cpp` on a partial map from slot indices to items.  The inventory
carries what its operations reach through the owner: the owner's identifiers,
its `Stat`, and the requests handed to the database thread so far.

The iteration order of the slot hash map is an argument of every operation that
loops over it.  An outer `none` is a failed `ASSERT_CRASH`.  The zone assertion
is compiled out of a release build and is treated with the zones.
-/

namespace Mmorpg

/-- The index of a slot, a `uint16`. -/
abbrev SlotIndex := UInt16

/-- The sparse slot map; an absent key is an empty slot. -/
abbrev Slots := SlotIndex → Option Item

namespace Slots

/-- Put an item into a slot. -/
def insert (index : SlotIndex) (item : Item) (slots : Slots) : Slots :=
  Function.update slots index (some item)

/-- Empty a slot. -/
def erase (index : SlotIndex) (slots : Slots) : Slots :=
  Function.update slots index none

/-- Change the item of a slot in place, if there is one. -/
def modify (index : SlotIndex) (change : Item → Item) (slots : Slots) : Slots :=
  Function.update slots index ((slots index).map change)

theorem insert_apply (index other : SlotIndex) (item : Item) (slots : Slots) :
    slots.insert index item other = if other = index then some item else slots other := by
  simp [insert, Function.update_apply]

theorem modify_apply (index other : SlotIndex) (change : Item → Item) (slots : Slots) :
    slots.modify index change other =
      if other = index then (slots index).map change else slots other := by
  simp [modify, Function.update_apply]

end Slots

/-- `IsValidSlotIndex`. -/
def isValidSlotIndex (index : SlotIndex) : Bool :=
  index.toNat < maxInventorySlots

/-- The indices the free-slot loop runs through, in order. -/
def slotIndices : List SlotIndex :=
  (List.range maxInventorySlots).map UInt16.ofNat

theorem mem_slotIndices_iff (index : SlotIndex) :
    index ∈ slotIndices ↔ index.toNat < maxInventorySlots := by
  simp only [slotIndices, List.mem_map, List.mem_range]
  constructor
  · rintro ⟨n, bound, rfl⟩
    have small : n < 65536 := by simp only [maxInventorySlots] at bound; omega
    simpa [UInt16.toNat_ofNat', Nat.mod_eq_of_lt small] using bound
  · intro bound
    exact ⟨index.toNat, bound, UInt16.ofNat_toNat⟩

theorem slotIndices_nodup : slotIndices.Nodup := by
  decide

/-- An iteration order of the slot hash map.  Nothing is promised for maps
with keys outside the valid range. -/
structure SlotOrder where
  order : Slots → List SlotIndex
  nodup : ∀ slots, (order slots).Nodup
  mem_iff : ∀ slots : Slots, (∀ index, (slots index).isSome → isValidSlotIndex index) →
    ∀ index, index ∈ order slots ↔ (slots index).isSome

/-- Iteration by ascending slot index. -/
def SlotOrder.ascending : SlotOrder where
  order slots := slotIndices.filter fun index => (slots index).isSome
  nodup _ := slotIndices_nodup.filter _
  mem_iff slots valid index := by
    rw [List.mem_filter, mem_slotIndices_iff]
    constructor
    · exact fun member => member.2
    · intro occupied
      exact ⟨by simpa [isValidSlotIndex] using valid index occupied, occupied⟩

/-! ## Database requests -/

/-- `DB_ITEM_INFO`: one stored inventory row as the login reads it. -/
structure DbItemInfo where
  slotIndex : SlotIndex
  itemId : ItemTableId
  count : UInt16
  equipped : Bool
  deriving DecidableEq, Repr

/-- `DB_ITEM_SLOT_SAVE`: the final state of one slot of a two-slot save. -/
structure DbItemSlotSave where
  slotIndex : SlotIndex
  hasItem : Bool := false
  itemId : ItemTableId := 0
  count : UInt16 := 0
  equipped : Bool := false
  deriving DecidableEq, Repr

/-- The three item requests of the database thread. -/
inductive ItemRequest
  | saveItem (playerId : Int) (slotIndex : SlotIndex) (itemId : ItemTableId) (count : UInt16)
      (equipped : Bool)
  | deleteItem (playerId : Int) (slotIndex : SlotIndex)
  | saveTwoItems (playerId : Int) (a b : DbItemSlotSave)
  deriving DecidableEq, Repr

/-- The player whose rows a request writes. -/
def ItemRequest.playerId : ItemRequest → Int
  | saveItem playerId .. => playerId
  | deleteItem playerId _ => playerId
  | saveTwoItems playerId .. => playerId

/-! ## State -/

/-- An inventory with the owner data its operations use. -/
structure Inventory where
  ownerId : ObjID
  playerId : Int
  stat : Stat
  slots : Slots
  issued : List ItemRequest

namespace Inventory

/-- `GetItem`, the item in a slot. -/
def itemAt (inventory : Inventory) (index : SlotIndex) : Option Item :=
  inventory.slots index

/-- Requests describing the present state of one slot. -/
def slotRequest (inventory : Inventory) (index : SlotIndex) : ItemRequest :=
  match inventory.slots index with
  | none => .deleteItem inventory.playerId index
  | some item =>
      .saveItem inventory.playerId index item.itemTableId item.count item.isEquipped

/-- `SaveSlotToDB` asks the database thread to save or delete the row of one
slot. -/
def saveSlotToDB (index : SlotIndex) (inventory : Inventory) : Inventory :=
  { inventory with issued := inventory.issued ++ [inventory.slotRequest index] }

/-- The lambda `describe` of `SaveTwoSlotsToDB`. -/
def describe (inventory : Inventory) (index : SlotIndex) : DbItemSlotSave :=
  match inventory.slots index with
  | none => { slotIndex := index }
  | some item =>
      { slotIndex := index
        hasItem := true
        itemId := item.itemTableId
        count := item.count
        equipped := item.isEquipped }

/-- `SaveTwoSlotsToDB` asks for both rows in one transaction. -/
def saveTwoSlotsToDB (indexA indexB : SlotIndex) (inventory : Inventory) : Inventory :=
  { inventory with
    issued := inventory.issued ++
      [.saveTwoItems inventory.playerId (inventory.describe indexA) (inventory.describe indexB)] }

/-- `GetEquippedItemId`: the first equipped item the iteration meets. -/
def getEquippedItemId (order : SlotOrder) (inventory : Inventory) : ItemTableId :=
  ((order.order inventory.slots).findSome? fun index =>
    match inventory.slots index with
    | some item => if item.isEquipped then some item.itemTableId else none
    | none => none).getD itemTableIdNone

/-- `RecomputeOffensive`: the base value, and the bonus of the item that is
found equipped. -/
def recomputeOffensive (order : SlotOrder) (inventory : Inventory) : Inventory :=
  let equippedId := inventory.getEquippedItemId order
  let attackBonus :=
    if equippedId ≠ itemTableIdNone then
      match ItemTable.find equippedId with
      | some row => row.attackBonus
      | none => 0
    else 0
  { inventory with stat := { inventory.stat with offensive := playerOffensive + attackBonus } }

/-! ## Loading -/

/-- One iteration of `LoadFromDB`. -/
def loadRow (inventory : Inventory) (info : DbItemInfo) : Inventory :=
  if isValidSlotIndex info.slotIndex then
    match makeNewItem info.itemId info.count with
    | none => inventory
    | some item =>
        let owned := { item with ownerId := inventory.ownerId }
        let placed := if info.equipped then owned.setEquipped true else owned
        { inventory with slots := inventory.slots.insert info.slotIndex placed }
  else inventory

/-- `LoadFromDB` takes the rows in the order in which they were read. -/
def loadFromDB (order : SlotOrder) (items : List DbItemInfo) (inventory : Inventory) :
    Inventory :=
  (items.foldl loadRow inventory).recomputeOffensive order

/-! ## Adding items -/

/-- `std::min` on the 16-bit counts. -/
def stdMin (first second : UInt16) : UInt16 :=
  if second < first then second else first

theorem toNat_stdMin (first second : UInt16) :
    (stdMin first second).toNat = min first.toNat second.toNat := by
  unfold stdMin
  split
  · next smaller =>
    have bound := UInt16.lt_iff_toNat_lt.mp smaller
    omega
  · next larger =>
    have bound := mt UInt16.lt_iff_toNat_lt.mpr larger
    omega

/-- Room left in a stack that `TryAddItem` may fill. -/
def hasRoom (row : ItemTableRow) (itemId : ItemTableId) (item : Item) : Bool :=
  item.itemTableId = itemId ∧ item.count < row.maxStack

/-- Dry run over the existing stacks. -/
def dryStacks (row : ItemTableRow) (itemId : ItemTableId) (slots : Slots) :
    List SlotIndex → UInt16 → UInt16
  | [], remaining => remaining
  | index :: rest, remaining =>
      if remaining = 0 then
        remaining
      else
        match slots index with
        | some item =>
            if hasRoom row itemId item then
              dryStacks row itemId slots rest
                (remaining - stdMin (row.maxStack - item.count) remaining)
            else
              dryStacks row itemId slots rest remaining
        | none => dryStacks row itemId slots rest remaining

/-- Dry run over the free slots. -/
def dryFree (row : ItemTableRow) (slots : Slots) : List SlotIndex → UInt16 → UInt16
  | [], remaining => remaining
  | index :: rest, remaining =>
      if remaining > 0 then
        match slots index with
        | none => dryFree row slots rest (remaining - stdMin row.maxStack remaining)
        | some _ => dryFree row slots rest remaining
      else
        remaining

/-- Loop state of the commit pass. -/
structure AddState where
  slots : Slots
  remaining : UInt16
  touched : List SlotIndex

/-- Commit pass over the existing stacks. -/
def commitStacks (row : ItemTableRow) (itemId : ItemTableId) :
    List SlotIndex → AddState → AddState
  | [], state => state
  | index :: rest, state =>
      if state.remaining = 0 then
        state
      else
        match state.slots index with
        | some item =>
            if hasRoom row itemId item then
              let added := stdMin (row.maxStack - item.count) state.remaining
              commitStacks row itemId rest
                { slots := state.slots.insert index (item.addCount added)
                  remaining := state.remaining - added
                  touched := state.touched ++ [index] }
            else
              commitStacks row itemId rest state
        | none => commitStacks row itemId rest state

/-- Commit pass over the free slots. -/
def commitFree (row : ItemTableRow) (itemId : ItemTableId) (ownerId : ObjID) :
    List SlotIndex → AddState → Option AddState
  | [], state => some state
  | index :: rest, state =>
      if state.remaining > 0 then
        match state.slots index with
        | some _ => commitFree row itemId ownerId rest state
        | none =>
            let added := stdMin row.maxStack state.remaining
            match makeNewItem itemId added with
            | none => none
            | some newItem =>
                commitFree row itemId ownerId rest
                  { slots := state.slots.insert index { newItem with ownerId := ownerId }
                    remaining := state.remaining - added
                    touched := state.touched ++ [index] }
      else
        some state

/-- The order in which existing stacks are visited; items that do not stack
skip this loop. -/
def stackOrder (order : SlotOrder) (row : ItemTableRow) (slots : Slots) : List SlotIndex :=
  if row.maxStack > 1 then order.order slots else []

/-- `TryAddItem`.  The result is the list of touched slots, or `none` for
`false`. -/
def tryAddItem (order : SlotOrder) (itemId : ItemTableId) (count : UInt16)
    (inventory : Inventory) : Option (Option (List SlotIndex) × Inventory) :=
  if count = 0 then
    some (none, inventory)
  else
    match ItemTable.find itemId with
    | none => some (none, inventory)
    | some row =>
        let visited := stackOrder order row inventory.slots
        let unplaced := dryFree row inventory.slots slotIndices
          (dryStacks row itemId inventory.slots visited count)
        if unplaced > 0 then
          some (none, inventory)
        else
          (commitFree row itemId inventory.ownerId slotIndices
            (commitStacks row itemId visited ⟨inventory.slots, count, []⟩)).map fun state =>
              (some state.touched,
                state.touched.foldl (fun saved index => saved.saveSlotToDB index)
                  { inventory with slots := state.slots })

/-! ## Removing items -/

/-- The slot holds at least `count` items and the request is well formed. -/
def holdsAtLeast (inventory : Inventory) (index : SlotIndex) (count : UInt16) : Option Item :=
  if count = 0 ∨ !isValidSlotIndex index then
    none
  else
    match inventory.slots index with
    | none => none
    | some item => if item.count < count then none else some item

/-- `TryRemoveItem` takes some of a stack; an emptied slot is erased, worn or
not. -/
def tryRemoveItem (index : SlotIndex) (count : UInt16) (inventory : Inventory) :
    Bool × Inventory :=
  match inventory.holdsAtLeast index count with
  | none => (false, inventory)
  | some item =>
      let left := item.removeCount count
      let slots :=
        if left.count = 0 then inventory.slots.erase index else inventory.slots.insert index left
      (true, { inventory with slots := slots }.saveSlotToDB index)

/-- `TryExtractItem`.  A full extraction hands over the stored instance, a
partial one a new instance of the same item. -/
def tryExtractItem (order : SlotOrder) (index : SlotIndex) (count : UInt16)
    (inventory : Inventory) : Option (Option Item × Inventory) :=
  match inventory.holdsAtLeast index count with
  | none => some (none, inventory)
  | some item =>
      if item.count = count then
        let emptied := { inventory with slots := inventory.slots.erase index }
        let refreshed := if item.isEquipped then emptied.recomputeOffensive order else emptied
        let extracted := { item.setEquipped false with ownerId := ObjID.npos }
        some (some extracted, refreshed.saveSlotToDB index)
      else
        let reduced :=
          { inventory with slots := inventory.slots.insert index (item.removeCount count) }
        match makeNewItem item.itemTableId count with
        | none => none
        | some newItem =>
            some (some { newItem with ownerId := ObjID.npos }, reduced.saveSlotToDB index)

/-! ## Equipment, use and swap -/

/-- The first other equipped slot the iteration of `TryEquip` meets. -/
def otherEquipped (order : SlotOrder) (index : SlotIndex) (inventory : Inventory) :
    Option SlotIndex :=
  (order.order inventory.slots).find? fun other =>
    other ≠ index ∧ (inventory.slots other).any Item.isEquipped

/-- `TryEquip`, with the automatically unequipped slot. -/
def tryEquip (order : SlotOrder) (index : SlotIndex) (inventory : Inventory) :
    (Bool × Option SlotIndex) × Inventory :=
  if !isValidSlotIndex index then
    ((false, none), inventory)
  else
    match inventory.slots index with
    | none => ((false, none), inventory)
    | some item =>
        if !item.isEquipment ∨ item.isEquipped then
          ((false, none), inventory)
        else
          match inventory.otherEquipped order index with
          | some previous =>
              let slots := (inventory.slots.modify previous (Item.setEquipped false)).modify index
                (Item.setEquipped true)
              ((true, some previous),
                ({ inventory with slots := slots }.recomputeOffensive order).saveTwoSlotsToDB
                  previous index)
          | none =>
              let slots := inventory.slots.modify index (Item.setEquipped true)
              ((true, none),
                ({ inventory with slots := slots }.recomputeOffensive order).saveSlotToDB index)

/-- `TryUnequip` takes off an equipped item. -/
def tryUnequip (order : SlotOrder) (index : SlotIndex) (inventory : Inventory) :
    Bool × Inventory :=
  if !isValidSlotIndex index then
    (false, inventory)
  else
    match inventory.slots index with
    | none => (false, inventory)
    | some item =>
        if !item.isEquipment ∨ !item.isEquipped then
          (false, inventory)
        else
          let slots := inventory.slots.modify index (Item.setEquipped false)
          (true, ({ inventory with slots := slots }.recomputeOffensive order).saveSlotToDB index)

/-- `TryUseItem`; a stored item missing from the item table is a crash. -/
def tryUseItem (index : SlotIndex) (inventory : Inventory) : Option (Bool × Inventory) :=
  if !isValidSlotIndex index then
    some (false, inventory)
  else
    match inventory.slots index with
    | none => some (false, inventory)
    | some item =>
        if item.isEquipment then
          some (false, inventory)
        else
          match ItemTable.find item.itemTableId with
          | none => none
          | some row =>
              let stat :=
                if row.healAmount > 0 then inventory.stat.healHp row.healAmount playerMaxHp
                else inventory.stat
              let left := item.removeCount 1
              let slots :=
                if left.count = 0 then inventory.slots.erase index
                else inventory.slots.insert index left
              some (true, { inventory with stat := stat, slots := slots }.saveSlotToDB index)

/-- `TrySwapSlots` exchanges two slots, of which one may be empty. -/
def trySwapSlots (indexA indexB : SlotIndex) (inventory : Inventory) : Bool × Inventory :=
  if !isValidSlotIndex indexA ∨ !isValidSlotIndex indexB then
    (false, inventory)
  else if indexA = indexB then
    (false, inventory)
  else if inventory.slots indexA = none ∧ inventory.slots indexB = none then
    (false, inventory)
  else
    let filledB :=
      match inventory.slots indexA with
      | some item => inventory.slots.insert indexB item
      | none => inventory.slots.erase indexB
    let filledA :=
      match inventory.slots indexB with
      | some item => filledB.insert indexA item
      | none => filledB.erase indexA
    (true, { inventory with slots := filledA }.saveTwoSlotsToDB indexA indexB)

end Inventory

/-! ## Operation sequences -/

/-- The public mutating operations with their arguments. -/
inductive InventoryOp
  | addItem (itemId : ItemTableId) (count : UInt16)
  | removeItem (index : SlotIndex) (count : UInt16)
  | extractItem (index : SlotIndex) (count : UInt16)
  | equip (index : SlotIndex)
  | unequip (index : SlotIndex)
  | useItem (index : SlotIndex)
  | swapSlots (indexA indexB : SlotIndex)
  deriving DecidableEq, Repr

namespace InventoryOp

/-- Run one operation.  `none` is a failed assertion; the flag is `false` for
a `false` or `nullptr` result. -/
def run (order : SlotOrder) (op : InventoryOp) (inventory : Inventory) :
    Option (Bool × Inventory) :=
  match op with
  | addItem itemId count =>
      (inventory.tryAddItem order itemId count).map fun result => (result.1.isSome, result.2)
  | removeItem index count => some (inventory.tryRemoveItem index count)
  | extractItem index count =>
      (inventory.tryExtractItem order index count).map fun result => (result.1.isSome, result.2)
  | equip index =>
      let result := inventory.tryEquip order index
      some (result.1.1, result.2)
  | unequip index => some (inventory.tryUnequip order index)
  | useItem index => inventory.tryUseItem index
  | swapSlots indexA indexB => some (inventory.trySwapSlots indexA indexB)

end InventoryOp

/-- One element of an operation sequence: the iteration order the map has at
that moment, and the operation. -/
abbrev InventoryCall := SlotOrder × InventoryOp

/-- Run one call and forget its result. -/
def callStep (call : InventoryCall) (inventory : Inventory) : Option Inventory :=
  (call.2.run call.1 inventory).map Prod.snd

/-- Run a sequence of calls. -/
abbrev runOps : List InventoryCall → Inventory → Option Inventory :=
  Transition.run callStep

end Mmorpg
