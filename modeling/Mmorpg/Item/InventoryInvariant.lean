import Mmorpg.Item.InventoryStep

/-!
# The representation invariant of an inventory

Every stored item is listed in the item table with the dynamic class its row
asks for, every stack is between one and its limit, keys are valid slot
indices, and at most one slot is equipped.  Each part is proved for one slot
change and carried to whole operation sequences.
-/

namespace Mmorpg

namespace Item

/-- The item is listed and its dynamic class is the one of its row. -/
def Typed (item : Item) : Prop :=
  ∃ row, ItemTable.find item.itemTableId = some row ∧
    item.isEquipment = decide (row.type = .eEquipment)

/-- The item is listed and its count is between one and the stack limit. -/
def Counted (item : Item) : Prop :=
  ∃ row, ItemTable.find item.itemTableId = some row ∧
    1 ≤ item.count.toNat ∧ item.count.toNat ≤ row.maxStack.toNat

end Item

namespace Slots

/-- Every stored item satisfies the predicate. -/
def All (predicate : Item → Prop) (slots : Slots) : Prop :=
  ∀ index item, slots index = some item → predicate item

/-- Only valid slot indices are keys. -/
def KeysValid (slots : Slots) : Prop :=
  ∀ index, (slots index).isSome → isValidSlotIndex index

/-- The slot holds an equipped item. -/
def EquippedAt (slots : Slots) (index : SlotIndex) : Prop :=
  (slots index).any Item.isEquipped = true

/-- At most one slot holds equipped gear. -/
def SingleEquipped (slots : Slots) : Prop :=
  ∀ first second, slots.EquippedAt first → slots.EquippedAt second → first = second

theorem All.update {predicate : Item → Prop} {slots : Slots} (all : slots.All predicate)
    (index : SlotIndex) {content : Option Item}
    (holds : ∀ item, content = some item → predicate item) :
    All predicate (Function.update slots index content) := by
  intro other item stored
  by_cases same : other = index
  · subst same
    exact holds item (by simpa using stored)
  · exact all other item (by simpa [Function.update_of_ne same] using stored)

theorem KeysValid.update {slots : Slots} (keys : slots.KeysValid) {index : SlotIndex}
    (valid : isValidSlotIndex index) (content : Option Item) :
    KeysValid (Function.update slots index content) := by
  intro other occupied
  by_cases same : other = index
  · exact same ▸ valid
  · exact keys other (by simpa [Function.update_of_ne same] using occupied)

/-- Writing a slot without equipped gear equips nothing new. -/
theorem SingleEquipped.update {slots : Slots} (single : slots.SingleEquipped)
    (index : SlotIndex) {content : Option Item}
    (bare : content.any Item.isEquipped = true → slots.EquippedAt index) :
    SingleEquipped (Function.update slots index content) := by
  have before : ∀ other, EquippedAt (Function.update slots index content) other →
      slots.EquippedAt other := by
    intro other equipped
    by_cases same : other = index
    · subst same
      exact bare (by simpa [EquippedAt] using equipped)
    · simpa [EquippedAt, Function.update_of_ne same] using equipped
  intro first second atFirst atSecond
  exact single first second (before first atFirst) (before second atSecond)

end Slots

/-- The invariant of `Inventory`. -/
structure Slots.Valid (slots : Slots) : Prop where
  keys : slots.KeysValid
  typed : slots.All Item.Typed
  counted : slots.All Item.Counted
  single : slots.SingleEquipped

namespace Inventory

/-! ## Item predicates -/

/-- A predicate kept by everything the operations do to one item. -/
structure ItemRule (ownerId : ObjID) (predicate : Item → Prop) : Prop where
  topUp : ∀ (row : ItemTableRow) (itemId : ItemTableId) (item : Item) (remaining : UInt16),
    ItemTable.find itemId = some row → hasRoom row itemId item = true → remaining ≠ 0 →
    predicate item → predicate (item.addCount (stdMin (row.maxStack - item.count) remaining))
  fill : ∀ (row : ItemTableRow) (itemId : ItemTableId) (newItem : Item) (remaining : UInt16),
    ItemTable.find itemId = some row → remaining ≠ 0 →
    makeNewItem itemId (stdMin row.maxStack remaining) = some newItem →
    predicate { newItem with ownerId := ownerId }
  taken : ∀ (count : UInt16) (item left : Item), afterTaking count item = some left →
    predicate item → predicate left
  flagged : ∀ (equipped : Bool) (item : Item), predicate item →
    predicate (item.setEquipped equipped)

theorem afterTaking_eq_some {count : UInt16} {item left : Item}
    (kept : afterTaking count item = some left) :
    left = item.removeCount count ∧ left.count ≠ 0 := by
  unfold afterTaking at kept
  split at kept
  · contradiction
  · next positive => exact ⟨(Option.some.inj kept).symm, Option.some.inj kept ▸ positive⟩

theorem hasRoom_iff {row : ItemTableRow} {itemId : ItemTableId} {item : Item} :
    hasRoom row itemId item = true ↔
      item.itemTableId = itemId ∧ item.count.toNat < row.maxStack.toNat := by
  simp [hasRoom, UInt16.lt_iff_toNat_lt]

/-- Topping up stays within 16 bits and within the stack limit. -/
theorem addCount_topUp_toNat {row : ItemTableRow} {itemId : ItemTableId} {item : Item}
    (room : hasRoom row itemId item = true) (remaining : UInt16) :
    (item.addCount (stdMin (row.maxStack - item.count) remaining)).count.toNat =
      item.count.toNat + min (row.maxStack.toNat - item.count.toNat) remaining.toNat := by
  have short := (hasRoom_iff.mp room).2
  have limit := row.maxStack.toNat_lt
  have difference : (row.maxStack - item.count).toNat =
      row.maxStack.toNat - item.count.toNat :=
    UInt16.toNat_sub_of_le _ _ (UInt16.le_iff_toNat_le.mpr (by omega))
  rw [Item.addCount, UInt16.toNat_add, toNat_stdMin, difference]
  omega

/-- Every operation keeps the items in the table. -/
theorem typed_rule (ownerId : ObjID) : ItemRule ownerId Item.Typed where
  topUp _ _ _ _ _ _ _ typed := typed
  fill row itemId newItem remaining found _ made := by
    rw [makeNewItem_eq_some _ found] at made
    obtain rfl := Option.some.inj made
    refine ⟨row, found, ?_⟩
    by_cases equipment : row.type = .eEquipment <;> simp [Item.isEquipment, equipment]
  taken count item left kept typed := by
    obtain ⟨rfl, _⟩ := afterTaking_eq_some kept
    exact typed
  flagged equipped item typed := by
    rcases typed with ⟨row, found, class_⟩
    exact ⟨row, by simpa using found, by simpa using class_⟩

/-- Every operation keeps the stacks within their bounds. -/
theorem counted_rule (ownerId : ObjID) : ItemRule ownerId Item.Counted where
  topUp row itemId item remaining found room more counted := by
    rcases counted with ⟨own, ownFound, positive, bounded⟩
    obtain ⟨sameId, short⟩ := hasRoom_iff.mp room
    rw [sameId, found] at ownFound
    obtain rfl := Option.some.inj ownFound
    refine ⟨row, by simpa [Item.addCount, sameId] using found, ?_⟩
    rw [addCount_topUp_toNat room]
    omega
  fill row itemId newItem remaining found more made := by
    rw [makeNewItem_eq_some _ found] at made
    obtain rfl := Option.some.inj made
    refine ⟨row, found, ?_⟩
    have stackable := ItemTable.one_le_maxStack found
    have positive : remaining.toNat ≠ 0 := fun zero => more (UInt16.toNat_inj.mp zero)
    simp only [toNat_stdMin]
    omega
  taken count item left kept counted := by
    obtain ⟨rfl, nonzero⟩ := afterTaking_eq_some kept
    rcases counted with ⟨row, found, positive, bounded⟩
    have positiveLeft : (item.removeCount count).count.toNat ≠ 0 :=
      fun zero => nonzero (UInt16.toNat_inj.mp zero)
    have left := Item.removeCount_toNat count item
    exact ⟨row, found, by omega, by omega⟩
  flagged equipped item counted := by
    rcases counted with ⟨row, found, bounds⟩
    exact ⟨row, by simpa using found, by simpa using bounds⟩

/-- What holds of all items holds after items are added. -/
theorem AddRun.all {row : ItemTableRow} {itemId : ItemTableId} {ownerId : ObjID}
    {predicate : Item → Prop} {first last : AddState} (rule : ItemRule ownerId predicate)
    (found : ItemTable.find itemId = some row) (chain : AddRun row itemId ownerId first last)
    (all : first.slots.All predicate) : last.slots.All predicate := by
  induction chain with
  | refl => exact all
  | tail _ link ih =>
      cases link with
      | topUp index item stored room fresh more =>
          apply ih.update index
          rintro _ ⟨⟩
          exact rule.topUp row itemId item _ found room more (ih index item stored)
      | fill index newItem stored listed fresh more made =>
          apply ih.update index
          rintro _ ⟨⟩
          exact rule.fill row itemId newItem _ found more made

theorem all_modify {predicate : Item → Prop} {slots : Slots} {ownerId : ObjID}
    (rule : ItemRule ownerId predicate) (all : slots.All predicate) (index : SlotIndex)
    (equipped : Bool) : (slots.modify index (Item.setEquipped equipped)).All predicate := by
  apply all.update index
  intro item changed
  rcases Option.map_eq_some_iff.mp changed with ⟨old, stored, rfl⟩
  exact rule.flagged equipped old (all index old stored)

/-- One slot change keeps every item rule. -/
theorem SlotChange.all {ownerId : ObjID} {before after : Slots} {batches : List SaveBatch}
    {predicate : Item → Prop} (change : SlotChange ownerId before after batches)
    (rule : ItemRule ownerId predicate) (all : before.All predicate) : after.All predicate := by
  cases change with
  | added row itemId count final found positive chain placed => exact chain.all rule found all
  | taken index count item stored valid positive =>
      apply all.update index
      intro left kept
      exact rule.taken count item left kept (all index item stored)
  | equipped index item stored valid equipment alone => exact all_modify rule all index true
  | replaced previous index item worn stored valid equipment different wornAt worn =>
      exact all_modify rule (all_modify rule all previous false) index true
  | unequipped index item stored valid => exact all_modify rule all index false
  | swapped indexA indexB validA validB different =>
      intro index item stored
      exact all _ item stored

/-! ## Keys -/

theorem AddRun.keysValid {row : ItemTableRow} {itemId : ItemTableId} {ownerId : ObjID}
    {first last : AddState} (chain : AddRun row itemId ownerId first last)
    (keys : first.slots.KeysValid) : last.slots.KeysValid := by
  induction chain with
  | refl => exact keys
  | tail _ link ih =>
      cases link with
      | topUp index item stored room fresh more => exact ih.update (ih index (by simp [stored])) _
      | fill index newItem stored listed fresh more made =>
          apply ih.update
          simpa [isValidSlotIndex] using (mem_slotIndices_iff index).mp listed

theorem SlotChange.keysValid {ownerId : ObjID} {before after : Slots} {batches : List SaveBatch}
    (change : SlotChange ownerId before after batches) (keys : before.KeysValid) :
    after.KeysValid := by
  cases change with
  | added row itemId count final found positive chain placed => exact chain.keysValid keys
  | taken index count item stored valid positive => exact keys.update valid _
  | equipped index item stored valid equipment alone => exact keys.update valid _
  | replaced previous index item worn stored valid equipment different wornAt worn =>
      exact Slots.KeysValid.update (keys.update (keys previous (by simp [wornAt])) _) valid _
  | unequipped index item stored valid => exact keys.update valid _
  | swapped indexA indexB validA validB different =>
      intro index occupied
      by_cases atA : index = indexA
      · exact atA ▸ validA
      · by_cases atB : index = indexB
        · exact atB ▸ validB
        · rw [Function.comp_apply, Equiv.swap_apply_of_ne_of_ne atA atB] at occupied
          exact keys index occupied

/-! ## The equipped slot -/

theorem AddRun.singleEquipped {row : ItemTableRow} {itemId : ItemTableId} {ownerId : ObjID}
    {first last : AddState} (chain : AddRun row itemId ownerId first last)
    (single : first.slots.SingleEquipped) : last.slots.SingleEquipped := by
  induction chain with
  | refl => exact single
  | tail _ link ih =>
      cases link with
      | topUp index item stored room fresh more =>
          apply ih.update index
          intro equipped
          simpa [Slots.EquippedAt, stored, Item.isEquipped, Item.addCount] using equipped
      | fill index newItem stored listed fresh more made =>
          apply ih.update index
          intro equipped
          rcases Option.map_eq_some_iff.mp made with ⟨found, _, rfl⟩
          by_cases equipment : found.type = .eEquipment <;>
            simp [Item.isEquipped, equipment] at equipped

/-- Setting the flag of a slot equips at most that slot. -/
theorem equippedAt_modify {slots : Slots} {index other : SlotIndex} {flag : Bool}
    (equipped : (slots.modify index (Item.setEquipped flag)).EquippedAt other) :
    (other = index ∧ flag = true) ∨ (other ≠ index ∧ slots.EquippedAt other) := by
  rw [Slots.EquippedAt, Slots.modify_apply] at equipped
  by_cases same : other = index
  · refine .inl ⟨same, ?_⟩
    cases stored : slots index with
    | none => simp [same, stored] at equipped
    | some item =>
        simp only [same, stored, if_true, Option.map_some, Option.any_some,
          Item.setEquipped_isEquipped, Bool.and_eq_true] at equipped
        exact equipped.2
  · exact .inr ⟨same, by simpa [Slots.EquippedAt, same] using equipped⟩

/-- A change of slots leaves at most one worn item. -/
theorem SlotChange.singleEquipped {ownerId : ObjID} {before after : Slots}
    {batches : List SaveBatch} (change : SlotChange ownerId before after batches)
    (keys : before.KeysValid) (single : before.SingleEquipped) : after.SingleEquipped := by
  cases change with
  | added row itemId count final found positive chain placed => exact chain.singleEquipped single
  | taken index count item stored valid positive =>
      apply single.update index
      intro equipped
      rcases Option.any_eq_true_iff_get .. |>.mp equipped with ⟨occupied, worn⟩
      rcases Option.isSome_iff_exists.mp occupied with ⟨left, kept⟩
      obtain ⟨rfl, _⟩ := afterTaking_eq_some kept
      simpa [Slots.EquippedAt, stored, kept, Item.isEquipped, Item.removeCount] using worn
  | equipped index item stored valid equipment alone =>
      have only : ∀ other, (before.modify index (Item.setEquipped true)).EquippedAt other →
          other = index := by
        intro other equipped
        rcases equippedAt_modify equipped with here | ⟨different, old⟩
        · exact here.1
        · have bare := alone keys other different
          rw [Slots.EquippedAt, bare] at old
          contradiction
      intro first second atFirst atSecond
      rw [only first atFirst, only second atSecond]
  | replaced previous index item worn stored valid equipment different wornAt worn =>
      have only : ∀ other, ((before.modify previous (Item.setEquipped false)).modify index
          (Item.setEquipped true)).EquippedAt other → other = index := by
        intro other equipped
        rcases equippedAt_modify equipped with here | ⟨_, bared⟩
        · exact here.1
        · rcases equippedAt_modify bared with ⟨_, impossible⟩ | ⟨notPrevious, old⟩
          · contradiction
          · exact absurd (single other previous old (by simp [Slots.EquippedAt, wornAt, worn]))
              notPrevious
      intro first second atFirst atSecond
      rw [only first atFirst, only second atSecond]
  | unequipped index item stored valid =>
      intro first second atFirst atSecond
      rcases equippedAt_modify atFirst with ⟨_, impossible⟩ | ⟨_, oldFirst⟩
      · contradiction
      · rcases equippedAt_modify atSecond with ⟨_, impossible⟩ | ⟨_, oldSecond⟩
        · contradiction
        · exact single first second oldFirst oldSecond
  | swapped indexA indexB validA validB different =>
      intro first second atFirst atSecond
      exact (Equiv.swap indexA indexB).injective (single _ _ atFirst atSecond)

/-- A change of slots keeps the whole invariant. -/
theorem SlotChange.valid {ownerId : ObjID} {before after : Slots} {batches : List SaveBatch}
    (change : SlotChange ownerId before after batches) (valid : before.Valid) : after.Valid where
  keys := change.keysValid valid.keys
  typed := change.all (typed_rule ownerId) valid.typed
  counted := change.all (counted_rule ownerId) valid.counted
  single := change.singleEquipped valid.keys valid.single

end Inventory

/-! ## Operations and runs -/

section Operations

variable {order : SlotOrder} {op : InventoryOp} {inventory after : Inventory} {flag : Bool}

/-- Failure is atomic. -/
theorem InventoryOp.eq_of_run_false (ran : op.run order inventory = some (false, after)) :
    after = inventory := by
  rcases InventoryOp.run_cases ran with failed | ⟨impossible, _⟩
  · exact failed.2
  · contradiction

/-- What every rule keeps holds after any operation. -/
theorem InventoryOp.all_of_run {predicate : Item → Prop}
    (ran : op.run order inventory = some (flag, after))
    (rule : Inventory.ItemRule inventory.ownerId predicate)
    (all : inventory.slots.All predicate) : after.slots.All predicate := by
  rcases InventoryOp.run_cases ran with ⟨_, rfl⟩ | ⟨_, _, succeeded, _⟩
  · exact all
  · exact succeeded.1.all rule all

/-- Every operation keeps the invariant. -/
theorem InventoryOp.valid_of_run (ran : op.run order inventory = some (flag, after))
    (valid : inventory.slots.Valid) : after.slots.Valid := by
  rcases InventoryOp.run_cases ran with ⟨_, rfl⟩ | ⟨_, _, succeeded, _⟩
  · exact valid
  · exact succeeded.1.valid valid

/-- With every stored item listed, no assertion on items fails. -/
theorem InventoryOp.run_completes (order : SlotOrder) (op : InventoryOp)
    (typed : inventory.slots.All Item.Typed) :
    ∃ flag after, op.run order inventory = some (flag, after) := by
  have listed : ∀ {index item}, inventory.slots index = some item →
      ItemTable.find item.itemTableId ≠ none := by
    intro index item stored missing
    rcases typed index item stored with ⟨row, found, _⟩
    rw [missing] at found
    contradiction
  cases op with
  | addItem itemId count =>
      rcases inventory.tryAddItem_cases order itemId count with
        failed | ⟨_, _, _, _, _, _, added⟩
      · exact ⟨_, _, by rw [run, failed]; rfl⟩
      · exact ⟨_, _, by rw [run, added]; rfl⟩
  | removeItem index count => exact ⟨_, _, rfl⟩
  | extractItem index count =>
      rcases inventory.tryExtractItem_cases order index count with
        failed | ⟨_, stored, _, _, ⟨_, missing, _⟩ | ⟨_, _, taken, _⟩⟩
      · exact ⟨_, _, by rw [run, failed]; rfl⟩
      · exact absurd missing (listed stored)
      · exact ⟨_, _, by rw [run, taken]; rfl⟩
  | equip index => exact ⟨_, _, rfl⟩
  | unequip index => exact ⟨_, _, rfl⟩
  | useItem index =>
      rcases inventory.tryUseItem_cases index with
        failed | ⟨_, stored, _, ⟨missing, _⟩ | ⟨_, used, _⟩⟩
      · exact ⟨_, _, failed⟩
      · exact absurd missing (listed stored)
      · exact ⟨_, _, used⟩
  | swapSlots indexA indexB => exact ⟨_, _, rfl⟩

end Operations

/-! ## Initial inventories -/

namespace Inventory

/-- An inventory before anything was loaded or issued. -/
def fresh (ownerId : ObjID) (playerId : Int) (stat : Stat) : Inventory :=
  { ownerId := ownerId
    playerId := playerId
    stat := stat
    slots := fun _ => none
    issued := [] }

/-- Stored rows as the operations leave them: distinct slots, counts within
the stack limit and at most one equipped row. -/
structure WellFormedRows (items : List DbItemInfo) : Prop where
  distinct : (items.map DbItemInfo.slotIndex).Nodup
  counted : ∀ info ∈ items, ∀ row, ItemTable.find info.itemId = some row →
    1 ≤ info.count ∧ info.count ≤ row.maxStack
  single : (items.filter DbItemInfo.equipped).length ≤ 1

/-- The item `LoadFromDB` makes of a row. -/
def loadedItem (ownerId : ObjID) (info : DbItemInfo) : Option Item :=
  (makeNewItem info.itemId info.count).map fun item =>
    if info.equipped then { item with ownerId := ownerId }.setEquipped true
    else { item with ownerId := ownerId }

/-- A row goes to its slot if the slot and the item are known. -/
theorem loadRow_slots (inventory : Inventory) (info : DbItemInfo) :
    (inventory.loadRow info).slots =
      if isValidSlotIndex info.slotIndex ∧ (loadedItem inventory.ownerId info).isSome then
        Function.update inventory.slots info.slotIndex (loadedItem inventory.ownerId info)
      else inventory.slots := by
  unfold loadRow loadedItem
  by_cases valid : isValidSlotIndex info.slotIndex
  · cases made : makeNewItem info.itemId info.count with
    | none => simp [valid]
    | some item => simp [valid, Slots.insert]
  · simp [valid]

@[simp]
theorem loadRow_ownerId (inventory : Inventory) (info : DbItemInfo) :
    (inventory.loadRow info).ownerId = inventory.ownerId := by
  unfold loadRow
  split
  · split <;> rfl
  · rfl

@[simp]
theorem loadRow_playerId (inventory : Inventory) (info : DbItemInfo) :
    (inventory.loadRow info).playerId = inventory.playerId := by
  unfold loadRow
  split
  · split <;> rfl
  · rfl

@[simp]
theorem loadRow_issued (inventory : Inventory) (info : DbItemInfo) :
    (inventory.loadRow info).issued = inventory.issued := by
  unfold loadRow
  split
  · split <;> rfl
  · rfl

/-- The content a list of rows gives to one slot. -/
def loadedAt (ownerId : ObjID) (items : List DbItemInfo) (index : SlotIndex) : Option Item :=
  if isValidSlotIndex index then
    (items.find? fun info => info.slotIndex == index).bind (loadedItem ownerId)
  else none

/-- With distinct slots, loading overrides exactly the slots of loadable rows. -/
theorem foldl_loadRow_slots (items : List DbItemInfo)
    (distinct : (items.map DbItemInfo.slotIndex).Nodup) (inventory : Inventory)
    (index : SlotIndex) :
    (items.foldl loadRow inventory).slots index =
      (loadedAt inventory.ownerId items index).or (inventory.slots index) := by
  induction items generalizing inventory with
  | nil => simp [loadedAt]
  | cons info rest ih =>
      rw [List.map_cons, List.nodup_cons] at distinct
      rw [List.foldl_cons, ih distinct.2, loadRow_ownerId, loadRow_slots]
      by_cases here : info.slotIndex = index
      · subst here
        have later : (rest.find? fun other => other.slotIndex == info.slotIndex) = none := by
          rw [List.find?_eq_none]
          intro other member same
          exact distinct.1 (List.mem_map.mpr ⟨other, member, by simpa using same⟩)
        by_cases valid : isValidSlotIndex info.slotIndex
        · cases made : loadedItem inventory.ownerId info with
          | none => simp [loadedAt, later, valid, made]
          | some item => simp [loadedAt, later, valid, made]
        · simp [loadedAt, valid]
      · have elsewhere : index ≠ info.slotIndex := fun same => here same.symm
        simp only [loadedAt, List.find?_cons, beq_eq_false_iff_ne.mpr here]
        congr 1
        split
        · rw [Function.update_of_ne elsewhere]
        · rfl

theorem foldl_loadRow_frame (items : List DbItemInfo) (inventory : Inventory) :
    (items.foldl loadRow inventory).ownerId = inventory.ownerId ∧
      (items.foldl loadRow inventory).playerId = inventory.playerId ∧
      (items.foldl loadRow inventory).issued = inventory.issued := by
  induction items generalizing inventory with
  | nil => exact ⟨rfl, rfl, rfl⟩
  | cons info rest ih => simpa using ih (inventory.loadRow info)

theorem loadRow_stat (inventory : Inventory) (info : DbItemInfo) :
    (inventory.loadRow info).stat = inventory.stat := by
  unfold loadRow
  split
  · split <;> rfl
  · rfl

theorem foldl_loadRow_stat (items : List DbItemInfo) (inventory : Inventory) :
    (items.foldl loadRow inventory).stat = inventory.stat := by
  induction items generalizing inventory with
  | nil => rfl
  | cons info rest ih => rw [List.foldl_cons, ih, loadRow_stat]

section Loading

variable {order : SlotOrder} {items : List DbItemInfo} {ownerId : ObjID} {playerId : Int}
  {stat : Stat}

/-- The slots after loading, from the rows alone. -/
theorem loadFromDB_fresh_slots (distinct : (items.map DbItemInfo.slotIndex).Nodup)
    (index : SlotIndex) :
    ((fresh ownerId playerId stat).loadFromDB order items).slots index =
      loadedAt ownerId items index := by
  rw [loadFromDB, recomputeOffensive_slots, foldl_loadRow_slots items distinct]
  simp [fresh]

/-- An occupied slot after loading comes from its row. -/
theorem loadedAt_eq_some {index : SlotIndex} {item : Item}
    (loaded : loadedAt ownerId items index = some item) :
    isValidSlotIndex index ∧ ∃ info ∈ items, info.slotIndex = index ∧
      loadedItem ownerId info = some item := by
  unfold loadedAt at loaded
  split at loaded
  · next valid =>
    rcases Option.bind_eq_some_iff.mp loaded with ⟨info, found, made⟩
    exact ⟨valid, info, List.mem_of_find?_eq_some found, by simpa using List.find?_some found,
      made⟩
  · contradiction

/-- What a row turns into. -/
theorem loadedItem_eq_some {info : DbItemInfo} {item : Item}
    (loaded : loadedItem ownerId info = some item) :
    item.itemTableId = info.itemId ∧ item.count = info.count ∧ item.Typed ∧
      item.isEquipped = (item.isEquipment && info.equipped) := by
  rcases Option.map_eq_some_iff.mp loaded with ⟨made, makes, rfl⟩
  cases found : ItemTable.find info.itemId with
  | none =>
      rw [(makeNewItem_eq_none_iff info.itemId info.count).mpr found] at makes
      contradiction
  | some row =>
      rw [makeNewItem_eq_some _ found] at makes
      obtain rfl := Option.some.inj makes
      have typed : Item.Typed
          { itemTableId := info.itemId
            count := info.count
            cls := if row.type = .eEquipment then .equipment false else .consumable
            name := row.name
            ownerId := ownerId } := by
        refine ⟨row, found, ?_⟩
        by_cases equipment : row.type = .eEquipment <;> simp [Item.isEquipment, equipment]
      by_cases worn : info.equipped = true
      · simp only [worn, if_true]
        exact ⟨by simp, by simp, (typed_rule ownerId).flagged true _ typed,
          by simp [Item.setEquipped_isEquipped]⟩
      · refine ⟨by simp [worn], by simp [worn], by simpa [worn] using typed, ?_⟩
        by_cases equipment : row.type = .eEquipment <;> simp [worn, Item.isEquipped, equipment]

theorem loaded_keysValid (distinct : (items.map DbItemInfo.slotIndex).Nodup) :
    ((fresh ownerId playerId stat).loadFromDB order items).slots.KeysValid := by
  intro index occupied
  rw [loadFromDB_fresh_slots distinct] at occupied
  rcases Option.isSome_iff_exists.mp occupied with ⟨item, loaded⟩
  exact (loadedAt_eq_some loaded).1

theorem loaded_typed (distinct : (items.map DbItemInfo.slotIndex).Nodup) :
    ((fresh ownerId playerId stat).loadFromDB order items).slots.All Item.Typed := by
  intro index item stored
  rw [loadFromDB_fresh_slots distinct] at stored
  rcases loadedAt_eq_some stored with ⟨_, info, _, _, made⟩
  exact (loadedItem_eq_some made).2.2.1

/-- Well formed rows load into a valid inventory. -/
theorem loaded_valid (wellFormed : WellFormedRows items) :
    ((fresh ownerId playerId stat).loadFromDB order items).slots.Valid where
  keys := loaded_keysValid wellFormed.distinct
  typed := loaded_typed wellFormed.distinct
  counted := by
    intro index item stored
    rw [loadFromDB_fresh_slots wellFormed.distinct] at stored
    rcases loadedAt_eq_some stored with ⟨_, info, member, _, made⟩
    obtain ⟨sameId, sameCount, ⟨row, found, _⟩, _⟩ := loadedItem_eq_some made
    have bounds := wellFormed.counted info member row (sameId ▸ found)
    rw [UInt16.le_iff_toNat_le, UInt16.le_iff_toNat_le] at bounds
    exact ⟨row, found, by simpa [sameCount] using bounds⟩
  single := by
    have source : ∀ index,
        ((fresh ownerId playerId stat).loadFromDB order items).slots.EquippedAt index →
        ∃ info ∈ items.filter DbItemInfo.equipped, info.slotIndex = index := by
      intro index equipped
      rw [Slots.EquippedAt, loadFromDB_fresh_slots wellFormed.distinct,
        Option.any_eq_true] at equipped
      rcases equipped with ⟨item, stored, worn⟩
      rcases loadedAt_eq_some stored with ⟨_, info, member, here, made⟩
      have flag := (loadedItem_eq_some made).2.2.2
      rw [worn, eq_comm, Bool.and_eq_true] at flag
      exact ⟨info, List.mem_filter.mpr ⟨member, flag.2⟩, here⟩
    intro first second atFirst atSecond
    rcases source first atFirst with ⟨one, oneAt, rfl⟩
    rcases source second atSecond with ⟨two, twoAt, rfl⟩
    have only := wellFormed.single
    match worn : items.filter DbItemInfo.equipped with
    | [] => simp [worn] at oneAt
    | [info] =>
        rw [worn, List.mem_singleton] at oneAt twoAt
        rw [oneAt, twoAt]
    | _ :: _ :: _ => simp [worn] at only

end Loading

/-- Inventories that a session starts from: empty, or loaded from well formed
rows. -/
inductive Initial : Inventory → Prop
  | empty (ownerId : ObjID) (playerId : Int) (stat : Stat) : Initial (fresh ownerId playerId stat)
  | loaded (ownerId : ObjID) (playerId : Int) (stat : Stat) (order : SlotOrder)
      (items : List DbItemInfo) : WellFormedRows items →
      Initial ((fresh ownerId playerId stat).loadFromDB order items)

theorem Initial.valid {inventory : Inventory} (initial : Initial inventory) :
    inventory.slots.Valid := by
  cases initial with
  | empty ownerId playerId stat =>
      exact
        { keys := by rintro _ ⟨⟩
          typed := by rintro _ _ ⟨⟩
          counted := by rintro _ _ ⟨⟩
          single := by rintro _ _ ⟨⟩ }
  | loaded ownerId playerId stat order items wellFormed => exact loaded_valid wellFormed

/-- From a valid inventory every call completes and keeps it valid. -/
theorem callStep_valid (call : InventoryCall) {inventory : Inventory}
    (valid : inventory.slots.Valid) :
    ∃ after, callStep call inventory = some after ∧ after.slots.Valid := by
  rcases call.2.run_completes call.1 valid.typed with ⟨flag, after, ran⟩
  exact ⟨after, by rw [callStep, ran]; rfl, InventoryOp.valid_of_run ran valid⟩

/-- In every state reached from an initial inventory by any operations, in any
iteration orders, the invariant holds, the next operation fails no assertion,
and one that reports failure changes neither slots nor hit points and issues
no request. -/
theorem representation_invariant (start : Inventory) (initial : Initial start)
    (calls : List InventoryCall) :
    ∃ inventory, runOps calls start = some inventory ∧ inventory.slots.Valid ∧
      ∀ (order : SlotOrder) (op : InventoryOp), ∃ flag after,
        op.run order inventory = some (flag, after) ∧
        (flag = false → after.slots = inventory.slots ∧ after.stat.hp = inventory.stat.hp ∧
          after.issued = inventory.issued) := by
  rcases Transition.run_isSome (fun call _ valid => callStep_valid call valid) calls initial.valid
    with ⟨inventory, ran, valid⟩
  refine ⟨inventory, ran, valid, fun order op => ?_⟩
  rcases op.run_completes order valid.typed with ⟨flag, after, completes⟩
  refine ⟨flag, after, completes, ?_⟩
  rintro rfl
  obtain rfl := InventoryOp.eq_of_run_false completes
  exact ⟨rfl, rfl, rfl⟩

/-- A player with a worn sword and a stack of potions is such a start. -/
theorem representation_invariant_sample :
    let rows : List DbItemInfo := [⟨0, 3, 1, true⟩, ⟨4, 1, 99, false⟩]
    let start := (fresh (ObjID.user 1) 7 {}).loadFromDB SlotOrder.ascending rows
    ∃ inventory, runOps [(SlotOrder.ascending, .addItem 1 5), (SlotOrder.ascending, .useItem 4)]
        start = some inventory ∧ inventory.slots.Valid ∧
      ∀ (order : SlotOrder) (op : InventoryOp), ∃ flag after,
        op.run order inventory = some (flag, after) ∧
        (flag = false → after.slots = inventory.slots ∧ after.stat.hp = inventory.stat.hp ∧
          after.issued = inventory.issued) := by
  intro rows start
  apply representation_invariant
  apply Initial.loaded
  exact
    { distinct := by decide
      counted := by
        intro info member row found
        simp only [rows, List.mem_cons, List.not_mem_nil, or_false] at member
        rcases member with rfl | rfl
        · obtain rfl : _ = row := Option.some.inj found
          decide
        · obtain rfl : _ = row := Option.some.inj found
          decide
      single := by decide }

end Inventory

end Mmorpg
