import Mmorpg.Item.AddItem

/-!
# What an inventory holds after an operation

Rearranging keeps every quantity, an addition brings its count, and taking
something out costs what is handed over.  A use costs one piece, if there is
one: a stored stack may be empty, and it is used all the same.
-/

namespace Mmorpg

open Finset

variable {itemId : ItemTableId}

theorem heldCount_some (item : Item) :
    heldCount itemId (some item) = if item.itemTableId = itemId then item.count.toNat else 0 :=
  rfl

theorem heldCount_setEquipped (equipped : Bool) (content : Option Item) :
    heldCount itemId (content.map (Item.setEquipped equipped)) = heldCount itemId content := by
  cases content with
  | none => rfl
  | some item => simp [heldCount]

theorem Slots.quantity_modify_setEquipped (equipped : Bool) (slots : Slots) (index : SlotIndex) :
    Slots.quantity itemId (slots.modify index (Item.setEquipped equipped)) =
      slots.quantity itemId := by
  apply sum_congr rfl
  intro other _
  rw [Slots.modify_apply]
  split
  · next same => rw [same, heldCount_setEquipped]
  · rfl

theorem Slots.quantity_swap (slots : Slots) (indexA indexB : SlotIndex) :
    Slots.quantity itemId (slots ∘ Equiv.swap indexA indexB) = slots.quantity itemId :=
  Equiv.sum_comp (Equiv.swap indexA indexB) fun index => heldCount itemId (slots index)

namespace Inventory

variable {order : SlotOrder} {index : SlotIndex} {count : UInt16} {inventory : Inventory}

/-- What is taken out of a stack and what stays behind. -/
theorem heldCount_afterTaking (itemId : ItemTableId) (count : UInt16) (item : Item) :
    heldCount itemId (afterTaking count item) +
        (if item.itemTableId = itemId then min count.toNat item.count.toNat else 0) =
      heldCount itemId (some item) := by
  have left := Item.removeCount_toNat count item
  have same : (item.removeCount count).itemTableId = item.itemTableId := rfl
  rw [heldCount_some, afterTaking]
  split
  · next empty =>
    rw [empty, UInt16.toNat_zero] at left
    rw [heldCount]
    split <;> omega
  · rw [heldCount_some, same]
    split <;> omega

/-- What is taken and what is left are what was there. -/
theorem quantity_afterTaking {slots : Slots} {item : Item} (itemId : ItemTableId)
    (stored : slots index = some item) (count : UInt16) :
    Slots.quantity itemId (Function.update slots index (afterTaking count item)) +
        (if item.itemTableId = itemId then min count.toNat item.count.toNat else 0) =
      slots.quantity itemId := by
  have exchange := Slots.quantity_update itemId slots index (afterTaking count item)
  have taken := heldCount_afterTaking itemId count item
  rw [stored] at exchange
  omega

theorem tryEquip_quantity (order : SlotOrder) (index : SlotIndex) (inventory : Inventory) :
    Slots.quantity itemId (inventory.tryEquip order index).2.slots =
      inventory.slots.quantity itemId := by
  unfold tryEquip
  split
  · rfl
  · split
    · rfl
    · split
      · rfl
      · split
        · dsimp only
          rw [saveTwoSlotsToDB_slots, recomputeOffensive_slots, Slots.quantity_modify_setEquipped,
            Slots.quantity_modify_setEquipped]
        · dsimp only
          rw [saveSlotToDB_slots, recomputeOffensive_slots, Slots.quantity_modify_setEquipped]

theorem tryUnequip_quantity (order : SlotOrder) (index : SlotIndex) (inventory : Inventory) :
    Slots.quantity itemId (inventory.tryUnequip order index).2.slots =
      inventory.slots.quantity itemId := by
  unfold tryUnequip
  split
  · rfl
  · split
    · rfl
    · split
      · rfl
      · dsimp only
        rw [saveSlotToDB_slots, recomputeOffensive_slots, Slots.quantity_modify_setEquipped]

theorem trySwapSlots_quantity (indexA indexB : SlotIndex) (inventory : Inventory) :
    Slots.quantity itemId (inventory.trySwapSlots indexA indexB).2.slots =
      inventory.slots.quantity itemId := by
  rcases inventory.trySwapSlots_cases indexA indexB with failed | ⟨after, swapped, slots, _⟩
  · rw [failed]
  · rw [swapped, slots, Slots.quantity_swap]

/-- What leaves the inventory is handed over. -/
theorem tryExtractItem_quantity (itemId : ItemTableId) {result : Option Item × Inventory}
    (ran : inventory.tryExtractItem order index count = some result) :
    result.2.slots.quantity itemId + heldCount itemId result.1 =
      inventory.slots.quantity itemId := by
  rcases inventory.tryExtractItem_cases order index count with
    failed | ⟨item, stored, _, enough, ⟨_, _, crashed⟩ |
      ⟨extracted, after, taken, sameId, sameCount, _, slots, _⟩⟩
  · rw [failed] at ran
    obtain rfl := Option.some.inj ran
    rw [heldCount, Nat.add_zero]
  · rw [crashed] at ran
    contradiction
  · rw [taken] at ran
    obtain rfl := Option.some.inj ran
    have balance := quantity_afterTaking itemId stored count
    rw [Nat.min_eq_left enough] at balance
    rw [slots, heldCount_some, sameId, sameCount]
    exact balance

/-- Even an empty stack can be used. -/
theorem tryUseItem_quantity (itemId : ItemTableId) {result : Bool × Inventory}
    (ran : inventory.tryUseItem index = some result) :
    result.2.slots.quantity itemId +
        (if result.1 = true then min 1 (heldCount itemId (inventory.slots index)) else 0) =
      inventory.slots.quantity itemId := by
  rcases inventory.tryUseItem_cases index with
    failed | ⟨item, stored, _, ⟨_, crashed⟩ | ⟨after, used, slots, _⟩⟩
  · rw [failed] at ran
    obtain rfl := Option.some.inj ran
    rw [if_neg Bool.false_ne_true, Nat.add_zero]
  · rw [crashed] at ran
    contradiction
  · rw [used] at ran
    obtain rfl := Option.some.inj ran
    have balance := quantity_afterTaking itemId stored 1
    rw [if_pos rfl, stored, heldCount_some, slots, ← balance]
    congr 1
    split
    · rfl
    · rfl

/-- An addition brings its count and nothing else. -/
theorem tryAddItem_quantity (itemId : ItemTableId) {addedId : ItemTableId}
    {touched : List SlotIndex} {after : Inventory}
    (ran : inventory.tryAddItem order addedId count = some (some touched, after)) :
    after.slots.quantity itemId =
      inventory.slots.quantity itemId + if addedId = itemId then count.toNat else 0 := by
  rcases inventory.tryAddItem_cases order addedId count with
    failed | ⟨row, final, found, _, run, placed, added⟩
  · rw [failed] at ran
    cases ran
  · rw [added] at ran
    cases ran
    split
    · next same =>
      subst same
      have balance := run.quantity found
      rw [placed, UInt16.toNat_zero, Nat.add_zero] at balance
      exact balance
    · next different =>
      rw [Nat.add_zero]
      apply sum_congr rfl
      intro index _
      have kept := (run.kept found index).1
      have others : ∀ content : Option Item,
          heldCount itemId content = heldCount itemId (otherItem addedId content) := by
        intro content
        cases content with
        | none => rfl
        | some item =>
          by_cases here : item.itemTableId = addedId
          · simp [otherItem, Option.filter, heldCount, here, different]
          · simp [otherItem, Option.filter, here]
      rw [others, others (inventory.slots index)]
      exact congrArg _ kept

end Inventory

end Mmorpg
