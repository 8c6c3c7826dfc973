import Mmorpg.Item.InventoryInvariant

/-!
# Attack power and the equipped weapon

`RecomputeOffensive` caches the attack power of the equipped item.  Every
operation but one either recomputes it or leaves the equipped item alone;
`TryRemoveItem` can take the last piece of a worn item out of its slot without
recomputing.
-/

namespace Mmorpg

/-- The bonus of an item, zero for "no item" and for unlisted identifiers. -/
def attackBonusOf (itemId : ItemTableId) : Nat :=
  match ItemTable.find itemId with
  | some row => row.attackBonus
  | none => 0

namespace Item

@[simp]
theorem addCount_isEquipped (amount : UInt16) (item : Item) :
    (item.addCount amount).isEquipped = item.isEquipped :=
  rfl

@[simp]
theorem removeCount_isEquipped (amount : UInt16) (item : Item) :
    (item.removeCount amount).isEquipped = item.isEquipped :=
  rfl

@[simp]
theorem addCount_itemTableId (amount : UInt16) (item : Item) :
    (item.addCount amount).itemTableId = item.itemTableId :=
  rfl

@[simp]
theorem removeCount_itemTableId (amount : UInt16) (item : Item) :
    (item.removeCount amount).itemTableId = item.itemTableId :=
  rfl

end Item

namespace Slots

/-- The identifier of the item worn in a slot. -/
def wornIdAt (slots : Slots) (index : SlotIndex) : Option ItemTableId :=
  match slots index with
  | some item => if item.isEquipped then some item.itemTableId else none
  | none => none

/-- The item worn is this one. -/
def Wears (slots : Slots) (itemId : ItemTableId) : Prop :=
  ∃ index, slots.wornIdAt index = some itemId

variable {before after slots : Slots}

theorem wornIdAt_eq_some {index : SlotIndex} {itemId : ItemTableId} :
    slots.wornIdAt index = some itemId ↔
      ∃ item, slots index = some item ∧ item.isEquipped = true ∧ item.itemTableId = itemId := by
  unfold wornIdAt
  cases slots index with
  | none => simp
  | some item => simp

theorem equippedAt_of_wornIdAt {index : SlotIndex} {itemId : ItemTableId}
    (worn : slots.wornIdAt index = some itemId) : slots.EquippedAt index := by
  rcases wornIdAt_eq_some.mp worn with ⟨item, stored, equipped, _⟩
  rw [EquippedAt, stored]
  exact equipped

/-- What is worn depends on the worn items of the slots. -/
theorem wears_congr (same : ∀ index, after.wornIdAt index = before.wornIdAt index)
    (itemId : ItemTableId) : after.Wears itemId ↔ before.Wears itemId := by
  simp only [Wears, same]

/-- A write changes what is worn in its slot. -/
theorem wornIdAt_update (index other : SlotIndex) (content : Option Item) :
    wornIdAt (Function.update slots index content) other =
      if other = index then wornIdAt (fun _ => content) other else slots.wornIdAt other := by
  by_cases here : other = index
  · subst here
    simp [wornIdAt]
  · simp [wornIdAt, here]

/-- Overwriting a slot with an item worn just as before. -/
theorem wornIdAt_update_same {index : SlotIndex} {content : Option Item}
    (same : wornIdAt (fun _ => content) index = slots.wornIdAt index) (other : SlotIndex) :
    wornIdAt (Function.update slots index content) other = slots.wornIdAt other := by
  rw [wornIdAt_update]
  split
  · next here => rw [here, same]
  · rfl

theorem wears_swap (indexA indexB : SlotIndex) (itemId : ItemTableId) :
    Wears (slots ∘ Equiv.swap indexA indexB) itemId ↔ slots.Wears itemId := by
  have crosswise : ∀ index, wornIdAt (slots ∘ Equiv.swap indexA indexB) index =
      slots.wornIdAt (Equiv.swap indexA indexB index) := fun _ => rfl
  simp only [Wears, crosswise]
  constructor
  · rintro ⟨index, worn⟩
    exact ⟨_, worn⟩
  · rintro ⟨index, worn⟩
    refine ⟨Equiv.swap indexA indexB index, ?_⟩
    rw [Equiv.swap_apply_self]
    exact worn

end Slots

namespace Inventory

variable {order : SlotOrder} {inventory before after : Inventory}

/-- The cached attack power is the one of the equipped item, whichever item the
iteration meets first. -/
def MatchesEquipped (inventory : Inventory) : Prop :=
  ∀ order : SlotOrder, inventory.stat.offensive =
    playerOffensive + attackBonusOf (inventory.getEquippedItemId order)

/-! ## The equipped item -/

theorem getEquippedItemId_eq (order : SlotOrder) (inventory : Inventory) :
    inventory.getEquippedItemId order =
      ((order.order inventory.slots).findSome? inventory.slots.wornIdAt).getD itemTableIdNone :=
  rfl

/-- With one item worn, every order finds it. -/
theorem getEquippedItemId_of_wears (keys : inventory.slots.KeysValid)
    (single : inventory.slots.SingleEquipped) {itemId : ItemTableId}
    (worn : inventory.slots.Wears itemId) : inventory.getEquippedItemId order = itemId := by
  rcases worn with ⟨index, wornAt⟩
  have equipped := Slots.equippedAt_of_wornIdAt wornAt
  have occupied : (inventory.slots index).isSome := by
    rcases Slots.wornIdAt_eq_some.mp wornAt with ⟨item, stored, _⟩
    rw [stored]
    rfl
  have visited := (order.mem_iff inventory.slots keys index).mpr occupied
  rw [getEquippedItemId_eq]
  cases met : (order.order inventory.slots).findSome? inventory.slots.wornIdAt with
  | none =>
    have skipped := List.findSome?_eq_none_iff.mp met index visited
    rw [wornAt] at skipped
    contradiction
  | some found =>
    rcases List.exists_of_findSome?_eq_some met with ⟨other, _, foundAt⟩
    have same := single other index (Slots.equippedAt_of_wornIdAt foundAt) equipped
    rw [same, wornAt] at foundAt
    exact (Option.some.inj foundAt).symm

/-- Without an item worn, every order finds none. -/
theorem getEquippedItemId_of_bare (bare : ∀ itemId, ¬inventory.slots.Wears itemId) :
    inventory.getEquippedItemId order = itemTableIdNone := by
  rw [getEquippedItemId_eq]
  cases met : (order.order inventory.slots).findSome? inventory.slots.wornIdAt with
  | none => rfl
  | some found =>
    rcases List.exists_of_findSome?_eq_some met with ⟨other, _, foundAt⟩
    exact absurd ⟨other, foundAt⟩ (bare found)

/-- Inventories that wear the same item report the same one, in any order. -/
theorem getEquippedItemId_congr {first second : SlotOrder}
    (keysBefore : before.slots.KeysValid) (singleBefore : before.slots.SingleEquipped)
    (keysAfter : after.slots.KeysValid) (singleAfter : after.slots.SingleEquipped)
    (same : ∀ itemId, after.slots.Wears itemId ↔ before.slots.Wears itemId) :
    after.getEquippedItemId first = before.getEquippedItemId second := by
  by_cases worn : ∃ itemId, before.slots.Wears itemId
  · rcases worn with ⟨itemId, worn⟩
    rw [getEquippedItemId_of_wears keysBefore singleBefore worn]
    exact getEquippedItemId_of_wears keysAfter singleAfter ((same itemId).mpr worn)
  · have bare : ∀ itemId, ¬before.slots.Wears itemId := fun itemId wears => worn ⟨itemId, wears⟩
    rw [getEquippedItemId_of_bare bare]
    exact getEquippedItemId_of_bare fun itemId wears => bare itemId ((same itemId).mp wears)

/-! ## Single operations -/

/-- The attack power was just computed from the present slots. -/
def Refreshed (order : SlotOrder) (inventory : Inventory) : Prop :=
  inventory.stat.offensive = playerOffensive + attackBonusOf (inventory.getEquippedItemId order)

/-- Neither the attack power nor the worn item changed. -/
structure KeepsWorn (before after : Inventory) : Prop where
  offensive : after.stat.offensive = before.stat.offensive
  worn : ∀ itemId, after.slots.Wears itemId ↔ before.slots.Wears itemId

theorem KeepsWorn.refl (inventory : Inventory) : KeepsWorn inventory inventory :=
  ⟨rfl, fun _ => Iff.rfl⟩

/-- `RecomputeOffensive` does what its name promises. -/
theorem recomputeOffensive_refreshed (order : SlotOrder) (inventory : Inventory) :
    Refreshed order (inventory.recomputeOffensive order) := by
  have same : (inventory.recomputeOffensive order).getEquippedItemId order =
      inventory.getEquippedItemId order := rfl
  rw [Refreshed, same, recomputeOffensive]
  dsimp only [attackBonusOf]
  split
  · rfl
  · next nothing =>
    rw [not_not] at nothing
    rw [nothing]
    rfl

/-- A recomputed attack power is that of the one item worn. -/
theorem Refreshed.matches_equipped (refreshed : Refreshed order inventory)
    (keys : inventory.slots.KeysValid) (single : inventory.slots.SingleEquipped) :
    inventory.MatchesEquipped := by
  intro other
  rw [refreshed, getEquippedItemId_congr keys single keys single fun _ => Iff.rfl]

/-- Adding items changes nothing that is worn. -/
theorem AddRun.wornIdAt {row : ItemTableRow} {itemId : ItemTableId} {ownerId : ObjID}
    {first last : AddState} (run : AddRun row itemId ownerId first last) (index : SlotIndex) :
    last.slots.wornIdAt index = first.slots.wornIdAt index := by
  induction run with
  | refl => rfl
  | tail _ link ih =>
    cases link with
    | topUp slot item stored room untouched more =>
      rw [← ih]
      apply Slots.wornIdAt_update_same
      rw [Slots.wornIdAt, Slots.wornIdAt, stored]
      rfl
    | fill slot newItem stored listed untouched more made =>
      rw [← ih]
      apply Slots.wornIdAt_update_same
      rcases Option.map_eq_some_iff.mp made with ⟨found, _, rfl⟩
      by_cases equipment : found.type = .eEquipment <;>
        simp [Slots.wornIdAt, stored, Item.isEquipped, equipment]

/-- What is left of a stack is worn as the stack was. -/
theorem wornIdAt_taken {slots : Slots} {index : SlotIndex} {count : UInt16} {item : Item}
    (stored : slots index = some item)
    (left : item.isEquipped = true → (item.removeCount count).count ≠ 0) (other : SlotIndex) :
    Slots.wornIdAt (Function.update slots index (afterTaking count item)) other =
      slots.wornIdAt other := by
  apply Slots.wornIdAt_update_same
  by_cases worn : item.isEquipped = true
  · simp [Slots.wornIdAt, stored, afterTaking, left worn, worn]
  · unfold afterTaking
    split
    · simp [Slots.wornIdAt, stored, worn]
    · simp [Slots.wornIdAt, stored, worn]

/-- The call does not take the whole of a worn item out with
`TryRemoveItem`. -/
def KeepsWornItem (call : InventoryCall) (inventory : Inventory) : Prop :=
  match call.2 with
  | .removeItem index count => ∀ item, inventory.slots index = some item →
      item.isEquipped = true → count ≠ item.count
  | _ => True

/-- Nothing worn is lost unless the whole stack goes. -/
theorem tryRemoveItem_keepsWorn {index : SlotIndex} {count : UInt16}
    (spared : ∀ item, inventory.slots index = some item → item.isEquipped = true →
      count ≠ item.count) :
    KeepsWorn inventory (inventory.tryRemoveItem index count).2 := by
  unfold tryRemoveItem
  split
  · exact KeepsWorn.refl inventory
  · next item held =>
    obtain ⟨_, _, stored, enough⟩ := holdsAtLeast_eq_some held
    constructor
    · rfl
    · apply Slots.wears_congr
      intro other
      rw [saveSlotToDB_slots]
      dsimp only
      rw [takeSlot_eq]
      apply wornIdAt_taken stored
      intro worn zero
      have taken := Item.removeCount_toNat count item
      rw [zero, UInt16.toNat_zero] at taken
      exact spared item stored worn (UInt16.toNat_inj.mp (by omega))

/-- A removal recomputes, or touches nothing that is worn. -/
theorem tryExtractItem_offensive {index : SlotIndex} {count : UInt16}
    {result : Option Item × Inventory}
    (ran : inventory.tryExtractItem order index count = some result) :
    Refreshed order result.2 ∨ KeepsWorn inventory result.2 := by
  unfold tryExtractItem at ran
  split at ran
  · exact Option.some.inj ran ▸ .inr (KeepsWorn.refl inventory)
  · next item held =>
    obtain ⟨_, _, stored, _⟩ := holdsAtLeast_eq_some held
    split at ran
    · rw [← Option.some.inj ran]
      dsimp only
      by_cases worn : item.isEquipped = true
      · rw [if_pos worn]
        exact .inl (recomputeOffensive_refreshed order _)
      · rw [if_neg worn]
        right
        constructor
        · rfl
        · apply Slots.wears_congr
          apply Slots.wornIdAt_update_same
          simp [Slots.wornIdAt, stored, worn]
    · dsimp only at ran
      split at ran
      · contradiction
      · rw [← Option.some.inj ran]
        right
        constructor
        · rfl
        · apply Slots.wears_congr
          apply Slots.wornIdAt_update_same
          rw [Slots.wornIdAt, Slots.wornIdAt, stored]
          rfl

/-- Putting on recomputes, or nothing happens. -/
theorem tryEquip_offensive (order : SlotOrder) (index : SlotIndex) (inventory : Inventory) :
    Refreshed order (inventory.tryEquip order index).2 ∨
      KeepsWorn inventory (inventory.tryEquip order index).2 := by
  unfold tryEquip
  split
  · exact .inr (KeepsWorn.refl inventory)
  · split
    · exact .inr (KeepsWorn.refl inventory)
    · split
      · exact .inr (KeepsWorn.refl inventory)
      · split
        · exact .inl (recomputeOffensive_refreshed order _)
        · exact .inl (recomputeOffensive_refreshed order _)

/-- Taking off recomputes, or nothing happens. -/
theorem tryUnequip_offensive (order : SlotOrder) (index : SlotIndex) (inventory : Inventory) :
    Refreshed order (inventory.tryUnequip order index).2 ∨
      KeepsWorn inventory (inventory.tryUnequip order index).2 := by
  unfold tryUnequip
  split
  · exact .inr (KeepsWorn.refl inventory)
  · split
    · exact .inr (KeepsWorn.refl inventory)
    · split
      · exact .inr (KeepsWorn.refl inventory)
      · exact .inl (recomputeOffensive_refreshed order _)

theorem tryUseItem_keepsWorn {index : SlotIndex} {result : Bool × Inventory}
    (ran : inventory.tryUseItem index = some result) : KeepsWorn inventory result.2 := by
  unfold tryUseItem at ran
  split at ran
  · exact Option.some.inj ran ▸ KeepsWorn.refl inventory
  · split at ran
    · exact Option.some.inj ran ▸ KeepsWorn.refl inventory
    · next item stored =>
      split at ran
      · exact Option.some.inj ran ▸ KeepsWorn.refl inventory
      · next consumable =>
        split at ran
        · contradiction
        · rw [← Option.some.inj ran]
          constructor
          · dsimp only [saveSlotToDB]
            split <;> rfl
          · apply Slots.wears_congr
            intro other
            rw [saveSlotToDB_slots]
            dsimp only
            rw [takeSlot_eq]
            apply wornIdAt_taken stored
            exact fun worn => absurd (Item.isEquipment_of_isEquipped worn) consumable

theorem trySwapSlots_keepsWorn (indexA indexB : SlotIndex) (inventory : Inventory) :
    KeepsWorn inventory (inventory.trySwapSlots indexA indexB).2 := by
  rcases inventory.trySwapSlots_cases indexA indexB with failed | ⟨after, swapped, slots, _⟩
  · rw [failed]
    exact KeepsWorn.refl inventory
  · constructor
    · unfold trySwapSlots
      split
      · rfl
      · split
        · rfl
        · split <;> rfl
    · intro itemId
      rw [swapped, slots]
      exact Slots.wears_swap indexA indexB itemId

theorem tryAddItem_keepsWorn {itemId : ItemTableId} {count : UInt16}
    {result : Option (List SlotIndex) × Inventory}
    (ran : inventory.tryAddItem order itemId count = some result) :
    KeepsWorn inventory result.2 := by
  rcases inventory.tryAddItem_cases order itemId count with
    failed | ⟨row, final, _, _, chain, _, succeeded⟩
  · rw [failed] at ran
    exact Option.some.inj ran ▸ KeepsWorn.refl inventory
  · rw [succeeded] at ran
    rw [← Option.some.inj ran]
    constructor
    · rfl
    · exact Slots.wears_congr chain.wornIdAt

/-- Every call that spares the worn item recomputes the attack power or leaves
it and the worn item alone. -/
theorem run_offensive {op : InventoryOp} {flag : Bool}
    (ran : op.run order inventory = some (flag, after))
    (spared : KeepsWornItem (order, op) inventory) :
    Refreshed order after ∨ KeepsWorn inventory after := by
  cases op with
  | addItem itemId count =>
    rcases Option.map_eq_some_iff.mp ran with ⟨result, added, outcome⟩
    obtain ⟨_, rfl⟩ := Prod.mk.inj outcome
    exact .inr (tryAddItem_keepsWorn added)
  | removeItem index count =>
    rw [show after = (inventory.tryRemoveItem index count).2 from
      congrArg Prod.snd (Option.some.inj ran).symm]
    exact .inr (tryRemoveItem_keepsWorn spared)
  | extractItem index count =>
    rcases Option.map_eq_some_iff.mp ran with ⟨result, extracted, outcome⟩
    obtain ⟨_, rfl⟩ := Prod.mk.inj outcome
    exact tryExtractItem_offensive extracted
  | equip index =>
    rw [show after = (inventory.tryEquip order index).2 from
      congrArg Prod.snd (Option.some.inj ran).symm]
    exact tryEquip_offensive order index inventory
  | unequip index =>
    rw [show after = (inventory.tryUnequip order index).2 from
      congrArg Prod.snd (Option.some.inj ran).symm]
    exact tryUnequip_offensive order index inventory
  | useItem index => exact .inr (tryUseItem_keepsWorn ran)
  | swapSlots indexA indexB =>
    rw [show after = (inventory.trySwapSlots indexA indexB).2 from
      congrArg Prod.snd (Option.some.inj ran).symm]
    exact .inr (trySwapSlots_keepsWorn indexA indexB inventory)

/-! ## Runs -/

/-- The attack power is right, and at most one item is worn. -/
structure Armed (inventory : Inventory) : Prop where
  keys : inventory.slots.KeysValid
  single : inventory.slots.SingleEquipped
  power : inventory.MatchesEquipped

/-- Every call that spares the worn item keeps the attack power right. -/
theorem callStep_armed (call : InventoryCall) (inventory next : Inventory)
    (spared : KeepsWornItem call inventory) (taken : callStep call inventory = some next)
    (armed : inventory.Armed) : next.Armed := by
  rcases Option.map_eq_some_iff.mp taken with ⟨⟨flag, after⟩, ran, rfl⟩
  have kept : after.slots.KeysValid ∧ after.slots.SingleEquipped := by
    rcases InventoryOp.run_cases ran with ⟨_, rfl⟩ | ⟨_, _, succeeded, _⟩
    · exact ⟨armed.keys, armed.single⟩
    · exact ⟨succeeded.1.keysValid armed.keys,
        succeeded.1.singleEquipped armed.keys armed.single⟩
  refine ⟨kept.1, kept.2, ?_⟩
  rcases run_offensive ran spared with refreshed | keeps
  · exact refreshed.matches_equipped kept.1 kept.2
  · intro order
    rw [keeps.offensive, armed.power order]
    rw [getEquippedItemId_congr armed.keys armed.single kept.1 kept.2 keeps.worn]

/-- The stored rows that load as worn items. -/
def wornRows (items : List DbItemInfo) : List DbItemInfo :=
  items.filter fun info => info.equipped ∧ isValidSlotIndex info.slotIndex ∧
    (ItemTable.find info.itemId).any fun row => row.type = .eEquipment

theorem loadRow_keysValid (info : DbItemInfo) (keys : inventory.slots.KeysValid) :
    (inventory.loadRow info).slots.KeysValid := by
  rw [loadRow_slots]
  split
  · next loads => exact keys.update loads.1 _
  · exact keys

/-- A slot that a row equips is the slot of a worn row. -/
theorem loadRow_equippedAt {info : DbItemInfo} {index : SlotIndex}
    (equipped : (inventory.loadRow info).slots.EquippedAt index) :
    inventory.slots.EquippedAt index ∨ (info ∈ wornRows [info] ∧ info.slotIndex = index) := by
  rw [Slots.EquippedAt, loadRow_slots] at equipped
  split at equipped
  · next loads =>
    by_cases here : index = info.slotIndex
    · right
      rw [here, Function.update_self, Option.any_eq_true] at equipped
      rcases equipped with ⟨item, loaded, worn⟩
      obtain ⟨sameId, _, ⟨row, found, typed⟩, flag⟩ := loadedItem_eq_some loaded
      rw [worn, eq_comm, Bool.and_eq_true] at flag
      rw [flag.1, eq_comm, decide_eq_true_eq] at typed
      refine ⟨?_, here.symm⟩
      simp [wornRows, flag.2, loads.1, ← sameId, found, typed]
    · rw [Function.update_of_ne here] at equipped
      exact .inl equipped
  · exact .inl equipped

/-- What is worn after loading was stored as worn. -/
theorem foldl_loadRow_equippedAt (items : List DbItemInfo) (inventory : Inventory)
    {index : SlotIndex} (equipped : (items.foldl loadRow inventory).slots.EquippedAt index) :
    inventory.slots.EquippedAt index ∨ ∃ info ∈ wornRows items, info.slotIndex = index := by
  induction items generalizing inventory with
  | nil => exact .inl equipped
  | cons info rest ih =>
    rcases ih (inventory.loadRow info) equipped with earlier | ⟨later, member, here⟩
    · rcases loadRow_equippedAt earlier with old | ⟨worn, here⟩
      · exact .inl old
      · refine .inr ⟨info, ?_, here⟩
        rw [wornRows, List.mem_filter] at worn ⊢
        exact ⟨List.mem_cons_self, worn.2⟩
    · refine .inr ⟨later, ?_, here⟩
      rw [wornRows, List.mem_filter] at member ⊢
      exact ⟨List.mem_cons_of_mem info member.1, member.2⟩

theorem foldl_loadRow_keysValid (items : List DbItemInfo) (inventory : Inventory)
    (keys : inventory.slots.KeysValid) : (items.foldl loadRow inventory).slots.KeysValid := by
  induction items generalizing inventory with
  | nil => exact keys
  | cons info rest ih => exact ih _ (loadRow_keysValid info keys)

/-- Any rows of which at most one is worn load into an armed inventory. -/
theorem loadFromDB_armed {items : List DbItemInfo} (once : (wornRows items).length ≤ 1)
    (ownerId : ObjID) (playerId : Int) (stat : Stat) (order : SlotOrder) :
    ((fresh ownerId playerId stat).loadFromDB order items).Armed := by
  have keys : ((fresh ownerId playerId stat).loadFromDB order items).slots.KeysValid := by
    apply foldl_loadRow_keysValid
    rintro _ ⟨⟩
  have single : ((fresh ownerId playerId stat).loadFromDB order items).slots.SingleEquipped := by
    intro first second atFirst atSecond
    have bare : ∀ index, ¬(fresh ownerId playerId stat).slots.EquippedAt index := by
      rintro _ ⟨⟩
    have rowOf : ∀ index, ((fresh ownerId playerId stat).loadFromDB order items).slots.EquippedAt
        index → ∃ info ∈ wornRows items, info.slotIndex = index :=
      fun index equipped => (foldl_loadRow_equippedAt items _ equipped).resolve_left (bare index)
    rcases rowOf first atFirst with ⟨one, oneAt, rfl⟩
    rcases rowOf second atSecond with ⟨two, twoAt, rfl⟩
    match worn : wornRows items with
    | [] => simp [worn] at oneAt
    | [info] =>
      rw [worn, List.mem_singleton] at oneAt twoAt
      rw [oneAt, twoAt]
    | _ :: _ :: _ => simp [worn] at once
  exact ⟨keys, single, (recomputeOffensive_refreshed order _).matches_equipped keys single⟩

/-- The claim about the attack power: it is right after any calls on any loaded
inventory. -/
def PowerAlwaysRight (items : List DbItemInfo) (calls : List InventoryCall) : Prop :=
  ∀ (ownerId : ObjID) (playerId : Int) (stat : Stat) (order : SlotOrder) (reached : Inventory),
    runOps calls ((fresh ownerId playerId stat).loadFromDB order items) = some reached →
      reached.MatchesEquipped

/-- If at most one stored row is worn, the attack power is right after every
sequence of calls that spares the worn item from `TryRemoveItem`. -/
theorem power_of_spared (ownerId : ObjID) (playerId : Int) (stat : Stat) (order : SlotOrder)
    (items : List DbItemInfo) (calls : List InventoryCall) (reached : Inventory)
    (once : (wornRows items).length ≤ 1)
    (spared : Transition.Along callStep KeepsWornItem calls
      ((fresh ownerId playerId stat).loadFromDB order items))
    (ran : runOps calls ((fresh ownerId playerId stat).loadFromDB order items) = some reached) :
    reached.MatchesEquipped :=
  (Transition.invariant_of_along callStep_armed spared ran
    (loadFromDB_armed once ownerId playerId stat order)).power

/-- A player with a worn iron sword, who takes it off and then removes it. -/
theorem power_of_spared_sample :
    ∃ reached, runOps [(.ascending, .unequip 0), (.ascending, .removeItem 0 1)]
        ((fresh (ObjID.user 1) 7 {}).loadFromDB .ascending [⟨0, 3, 1, true⟩]) = some reached ∧
      reached.MatchesEquipped := by
  have completes : (runOps [(.ascending, .unequip 0), (.ascending, .removeItem 0 1)]
      ((fresh (ObjID.user 1) 7 {}).loadFromDB .ascending [⟨0, 3, 1, true⟩])).isSome := by decide
  rcases Option.isSome_iff_exists.mp completes with ⟨reached, ran⟩
  refine ⟨reached, ran, power_of_spared _ _ _ _ _ _ reached (by decide) ?_ ran⟩
  refine ⟨trivial, fun next taken => ⟨?_, fun _ _ => trivial⟩⟩
  intro item stored worn
  rw [← Option.some.inj taken] at stored
  rw [← Option.some.inj stored] at worn
  contradiction

/-- Removing the worn iron sword leaves its bonus behind. -/
theorem not_powerAlwaysRight :
    ¬PowerAlwaysRight [⟨0, 3, 1, true⟩] [(.ascending, .removeItem 0 1)] := by
  intro right
  have completes : (runOps [(.ascending, .removeItem 0 1)]
      ((fresh (ObjID.user 1) 7 {}).loadFromDB .ascending [⟨0, 3, 1, true⟩])).isSome := by decide
  rcases Option.isSome_iff_exists.mp completes with ⟨reached, ran⟩
  have power := right (ObjID.user 1) 7 {} .ascending reached ran .ascending
  rw [← Option.some.inj ran] at power
  revert power
  decide

end Inventory

end Mmorpg
