import Mmorpg.Item.AddItem
import Mmorpg.Item.Persistence
import Mathlib.Algebra.Order.BigOperators.Group.Finset

/-!
# Crash atomicity of inventory persistence

The server may stop after any committed request.  Every operation but
`TryAddItem` saves its slots in one request; an addition that spreads over
several slots issues one request for each, and a stop between them leaves half
of it stored.  Additions that do not split are described by the room in the
slots, not by what the operation computes.
-/

namespace Mmorpg

namespace Inventory

/-! ## Room in the slots -/

/-- Room in a stack of the same item, if the item stacks. -/
def stackRoom (row : ItemTableRow) (itemId : ItemTableId) : Option Item → Nat
  | none => 0
  | some item =>
      if row.maxStack > 1 ∧ hasRoom row itemId item = true then
        row.maxStack.toNat - item.count.toNat
      else 0

theorem stackRoom_eq_heldRoom {row : ItemTableRow} (stackable : row.maxStack > 1)
    (itemId : ItemTableId) (content : Option Item) :
    stackRoom row itemId content = heldRoom row itemId content := by
  cases content with
  | none => rfl
  | some item =>
      by_cases room : hasRoom row itemId item = true
      · rw [heldRoom_of_hasRoom room, stackRoom, if_pos ⟨stackable, room⟩]
      · rw [heldRoom_of_not_hasRoom room, stackRoom, if_neg fun both => room both.2]

/-- Room in the whole inventory. -/
def capacity (row : ItemTableRow) (itemId : ItemTableId) (slots : Slots) : Nat :=
  (slotIndices.map fun index => stackRoom row itemId (slots index)).sum +
    (slotIndices.map fun index => freeRoom row (slots index)).sum

/-- The first stack with room that an addition meets. -/
def firstRoom (order : SlotOrder) (row : ItemTableRow) (itemId : ItemTableId) (slots : Slots) :
    Option Item :=
  (stackOrder order row slots).findSome? fun index =>
    (slots index).filter (hasRoom row itemId)

/-- Room in the slot that an addition turns to first: that stack, or a free
slot. -/
def nextRoom (order : SlotOrder) (row : ItemTableRow) (itemId : ItemTableId) (slots : Slots) :
    Nat :=
  match firstRoom order row itemId slots with
  | some stack => row.maxStack.toNat - stack.count.toNat
  | none => row.maxStack.toNat

/-- The addition is refused, or the slot it turns to first takes all of it. -/
def Unsplit (order : SlotOrder) (itemId : ItemTableId) (count : UInt16) (slots : Slots) : Prop :=
  ∀ row, ItemTable.find itemId = some row →
    capacity row itemId slots < count.toNat ∨ count.toNat ≤ nextRoom order row itemId slots

/-- The condition on one call of a sequence. -/
def UnsplitCall (call : InventoryCall) (inventory : Inventory) : Prop :=
  match call.2 with
  | .addItem itemId count => Unsplit call.1 itemId count inventory.slots
  | _ => True

/-! ## Additions into one slot -/

section Add

variable {row : ItemTableRow} {itemId : ItemTableId} {ownerId : ObjID}

theorem commitStacks_of_remaining_zero (indices : List SlotIndex) {state : AddState}
    (done : state.remaining = 0) : commitStacks row itemId indices state = state := by
  cases indices with
  | nil => rfl
  | cons index rest => simp [commitStacks, done]

theorem commitFree_of_remaining_zero (indices : List SlotIndex) {state : AddState}
    (done : state.remaining = 0) :
    commitFree row itemId ownerId indices state = some state := by
  cases indices with
  | nil => rfl
  | cons index rest => simp [commitFree, done]

/-- Without a stack that has room the first pass does nothing. -/
theorem commitStacks_of_no_room (indices : List SlotIndex) (state : AddState)
    (nowhere : (indices.findSome? fun index =>
      (state.slots index).filter (hasRoom row itemId)) = none) :
    commitStacks row itemId indices state = state := by
  induction indices with
  | nil => rfl
  | cons index rest ih =>
      rw [List.findSome?_cons] at nowhere
      unfold commitStacks
      split
      · rfl
      · cases stored : state.slots index with
        | none => exact ih (by simpa [stored] using nowhere)
        | some item =>
            by_cases room : hasRoom row itemId item = true
            · simp [stored, Option.filter, room] at nowhere
            · simp only [room]
              exact ih (by simpa [stored, Option.filter, room] using nowhere)

/-- A first stack with enough room takes everything. -/
theorem commitStacks_of_first_room (indices : List SlotIndex) (state : AddState) {stack : Item}
    (first : (indices.findSome? fun index =>
      (state.slots index).filter (hasRoom row itemId)) = some stack)
    (enough : state.remaining.toNat ≤ row.maxStack.toNat - stack.count.toNat) :
    (commitStacks row itemId indices state).remaining = 0 ∧
      (commitStacks row itemId indices state).touched.length ≤ state.touched.length + 1 := by
  induction indices with
  | nil => simp at first
  | cons index rest ih =>
      rw [List.findSome?_cons] at first
      unfold commitStacks
      split
      · next done => exact ⟨done, Nat.le_succ _⟩
      · cases stored : state.slots index with
        | none => exact ih (by simpa [stored] using first)
        | some item =>
            by_cases room : hasRoom row itemId item = true
            · obtain rfl : item = stack := by simpa [stored, Option.filter, room] using first
              have short := (hasRoom_iff.mp room).2
              have difference : (row.maxStack - item.count).toNat =
                  row.maxStack.toNat - item.count.toNat :=
                UInt16.toNat_sub_of_le _ _ (UInt16.le_iff_toNat_le.mpr (by omega))
              have takesAll : stdMin (row.maxStack - item.count) state.remaining =
                  state.remaining := by
                apply UInt16.toNat_inj.mp
                rw [toNat_stdMin, difference]
                omega
              simp only [room, if_true, takesAll, UInt16.sub_self]
              rw [commitStacks_of_remaining_zero rest rfl]
              exact ⟨rfl, by simp⟩
            · simp only [room]
              exact ih (by simpa [stored, Option.filter, room] using first)

/-- A count within the stack limit needs one free slot at most. -/
theorem commitFree_touched (indices : List SlotIndex) (state : AddState) {final : AddState}
    (fits : state.remaining ≤ row.maxStack)
    (ran : commitFree row itemId ownerId indices state = some final) :
    final.touched.length ≤ state.touched.length + 1 := by
  induction indices with
  | nil =>
      obtain rfl := Option.some.inj ran
      exact Nat.le_succ _
  | cons index rest ih =>
      unfold commitFree at ran
      split at ran
      · cases stored : state.slots index with
        | some item =>
            simp only [stored] at ran
            exact ih ran
        | none =>
            have takesAll : stdMin row.maxStack state.remaining = state.remaining := by
              apply UInt16.toNat_inj.mp
              rw [toNat_stdMin]
              exact Nat.min_eq_right (UInt16.le_iff_toNat_le.mp fits)
            simp only [stored, takesAll, UInt16.sub_self] at ran
            split at ran
            · contradiction
            · rw [commitFree_of_remaining_zero rest rfl] at ran
              obtain rfl := Option.some.inj ran
              simp
      · obtain rfl := Option.some.inj ran
        exact Nat.le_succ _

/-! ## Additions that do not fit -/

/-- The stacks an addition visits hold no more room than all slots together. -/
theorem stackOrder_room (row : ItemTableRow) (itemId : ItemTableId) (order : SlotOrder)
    {slots : Slots} (keys : slots.KeysValid) :
    ((stackOrder order row slots).map fun index => stackRoom row itemId (slots index)).sum ≤
      (slotIndices.map fun index => stackRoom row itemId (slots index)).sum := by
  unfold stackOrder
  split
  · rw [← List.sum_toFinset _ (order.nodup slots), ← List.sum_toFinset _ slotIndices_nodup]
    apply Finset.sum_le_sum_of_subset
    intro index visited
    rw [List.mem_toFinset] at visited ⊢
    have occupied := (order.mem_iff slots keys index).mp visited
    rw [mem_slotIndices_iff]
    simpa [isValidSlotIndex] using keys index occupied
  · simp

/-- An addition beyond the capacity is refused. -/
theorem tryAddItem_of_capacity_lt (order : SlotOrder) {count : UInt16} {inventory : Inventory}
    (found : ItemTable.find itemId = some row) (keys : inventory.slots.KeysValid)
    (full : capacity row itemId inventory.slots < count.toNat) :
    inventory.tryAddItem order itemId count = some (none, inventory) := by
  have positive : count ≠ 0 := by
    rintro rfl
    simp at full
  have unplaced : dryFree row inventory.slots slotIndices
      (dryStacks row itemId inventory.slots (stackOrder order row inventory.slots) count) > 0 := by
    have stacked : count.toNat ≤ (dryStacks row itemId inventory.slots
          (stackOrder order row inventory.slots) count).toNat +
        (slotIndices.map fun index => stackRoom row itemId (inventory.slots index)).sum := by
      by_cases stackable : row.maxStack > 1
      · have bound := toNat_dryStacks row itemId inventory.slots
          (stackOrder order row inventory.slots) count
        have visited := stackOrder_room row itemId order keys
        simp only [stackRoom_eq_heldRoom stackable] at visited ⊢
        omega
      · simp [stackOrder, stackable, dryStacks]
    have freed := toNat_dryFree row inventory.slots slotIndices
      (dryStacks row itemId inventory.slots (stackOrder order row inventory.slots) count)
    rw [capacity] at full
    rw [gt_iff_lt, UInt16.lt_iff_toNat_lt, UInt16.toNat_zero]
    omega
  simp only [tryAddItem, positive, found, unplaced, if_true, if_false]

/-- An addition that does not split touches one slot at most. -/
theorem tryAddItem_touched_of_unsplit {order : SlotOrder} {count : UInt16}
    {inventory after : Inventory} {touched : List SlotIndex} (keys : inventory.slots.KeysValid)
    (unsplit : Unsplit order itemId count inventory.slots)
    (ran : inventory.tryAddItem order itemId count = some (some touched, after)) :
    touched.length ≤ 1 := by
  cases found : ItemTable.find itemId with
  | none => simp [tryAddItem, found] at ran
  | some row =>
      rcases unsplit row found with full | fits
      · rw [tryAddItem_of_capacity_lt order found keys full] at ran
        simp at ran
      · simp only [tryAddItem, found] at ran
        split at ran
        · simp at ran
        · split at ran
          · simp at ran
          · rcases Option.map_eq_some_iff.mp ran with ⟨final, committed, result⟩
            obtain rfl : final.touched = touched := Option.some.inj (Prod.mk.inj result).1
            cases first : firstRoom order row itemId inventory.slots with
            | some stack =>
                simp only [nextRoom, first] at fits
                obtain ⟨done, few⟩ := commitStacks_of_first_room
                  (stackOrder order row inventory.slots) ⟨inventory.slots, count, []⟩ first fits
                rw [commitFree_of_remaining_zero slotIndices done] at committed
                obtain rfl := Option.some.inj committed
                exact few
            | none =>
                simp only [nextRoom, first] at fits
                rw [commitStacks_of_no_room (stackOrder order row inventory.slots)
                  ⟨inventory.slots, count, []⟩ first] at committed
                exact commitFree_touched slotIndices ⟨inventory.slots, count, []⟩
                  (UInt16.le_iff_toNat_le.mpr fits) committed

end Add

/-! ## Stopping between requests -/

/-- The stored rows as they are, without the filter of `LoadFromDB`. -/
def stored : Decoding where
  decode _ view := view
  faithful _ _ _ _ := rfl

/-- After any prefix of the requests the stored rows are the slots after some
prefix of the operations. -/
def CrashAtomic (playerId : Int) (table : InventoryTable) (calls : List InventoryCall)
    (start : Inventory) : Prop :=
  ∀ inventory, runOps calls start = some inventory → ∀ kept, kept <+: inventory.issued →
    ∃ count ≤ calls.length, ∃ middle, runOps (calls.take count) start = some middle ∧
      ∀ index, (Transition.replay InventoryTable.processItem kept table).storedAt playerId index =
        (middle.slots index).map Item.view

/-- The keys are valid and the call does not split an addition. -/
def OneRequest (call : InventoryCall) (inventory : Inventory) : Prop :=
  inventory.slots.KeysValid ∧ UnsplitCall call inventory

/-- A call that does not split what it adds issues at most one request. -/
theorem appendsOne : Transition.AppendsOne callStep OneRequest Inventory.issued := by
  intro call before after single taken
  rcases Option.map_eq_some_iff.mp taken with ⟨⟨flag, result⟩, ran, rfl⟩
  obtain ⟨keys, unsplit⟩ := single
  rcases call with ⟨order, op⟩
  rcases InventoryOp.run_cases ran with ⟨_, rfl⟩ | ⟨rfl, batches, succeeded, only⟩
  · exact .inl rfl
  · have few : batches.length ≤ 1 → (result.issued = before.issued ∨
        ∃ entry, result.issued = before.issued ++ [entry]) := by
      intro bound
      rw [succeeded.2.issued]
      match batches with
      | [] => exact .inl (by simp)
      | [batch] => exact .inr ⟨_, rfl⟩
      | _ :: _ :: _ => simp at bound
    by_cases adds : op.isAddItem = true
    · cases op with
      | addItem itemId count =>
          rcases Option.map_eq_some_iff.mp ran with ⟨⟨touched, final⟩, added, outcome⟩
          obtain ⟨some_, rfl⟩ := Prod.mk.inj outcome
          rcases Option.isSome_iff_exists.mp some_ with ⟨slots, rfl⟩
          have persisted := (tryAddItem_succeeded added).2
          have bound := tryAddItem_touched_of_unsplit keys unsplit added
          rw [persisted.issued]
          match slots with
          | [] => exact .inl (by simp)
          | [index] => exact .inr ⟨_, rfl⟩
          | _ :: _ :: _ => simp at bound
      | removeItem | extractItem | equip | unequip | useItem | swapSlots =>
          simp [InventoryOp.isAddItem] at adds
    · exact few (only (by simpa using adds)).le

/-- Along a run that keeps the keys valid, calls that do not split additions
issue one request each. -/
theorem oneRequest_along {calls : List InventoryCall} {start : Inventory}
    (keys : start.slots.KeysValid) (unsplit : Transition.Along callStep UnsplitCall calls start) :
    Transition.Along callStep OneRequest calls start := by
  induction calls generalizing start with
  | nil => trivial
  | cons call rest ih =>
      refine ⟨⟨keys, unsplit.1⟩, fun next taken => ih ?_ (unsplit.2 next taken)⟩
      rcases Option.map_eq_some_iff.mp taken with ⟨⟨flag, result⟩, ran, rfl⟩
      rcases InventoryOp.run_cases ran with ⟨_, rfl⟩ | ⟨_, _, succeeded, _⟩
      · exact keys
      · exact succeeded.1.keysValid keys

/-- If every addition of the sequence is refused or fits the slot it turns to
first, no operation is half persisted.  The inventory starts as loaded and
equal to its stored rows. -/
theorem crashAtomic_of_unsplit (ownerId : ObjID) (playerId : Int) (stat : Stat)
    (order : SlotOrder) (table : InventoryTable) (rows : List DbItemInfo)
    (extracted : table.Extracts playerId rows) (calls : List InventoryCall)
    (equal : ∀ index, table.storedAt playerId index =
      (((fresh ownerId playerId stat).loadFromDB order rows).slots index).map Item.view)
    (unsplit : Transition.Along callStep UnsplitCall calls
      ((fresh ownerId playerId stat).loadFromDB order rows)) :
    CrashAtomic playerId table calls ((fresh ownerId playerId stat).loadFromDB order rows) := by
  intro inventory ran kept before
  have loaded : Mirrors loading ownerId playerId _ table := loaded_mirrors extracted order stat
  have initially : Mirrors stored ownerId playerId
      ((fresh ownerId playerId stat).loadFromDB order rows) table :=
    ⟨loaded.owner, loaded.player, loaded.keys, loaded.typed, equal⟩
  have nothing : ((fresh ownerId playerId stat).loadFromDB order rows).issued = [] :=
    loaded_issued order stat
  have mirrored : ∃ count ≤ calls.length, ∃ middle,
      runOps (calls.take count) ((fresh ownerId playerId stat).loadFromDB order rows) =
        some middle ∧
      Mirrors stored ownerId playerId middle
        (Transition.replay InventoryTable.processItem kept table) := by
    apply (writesThrough stored ownerId playerId).mirrors_take appendsOne
      (oneRequest_along loaded.keys unsplit) ran
    · rw [nothing]
      exact initially
    · rw [nothing]
      exact List.nil_prefix
    · exact before
  rcases mirrored with ⟨count, bound, middle, reached, mirror⟩
  exact ⟨count, bound, middle, reached, mirror.agrees⟩

/-! ## A split pickup -/

/-- Ninety-eight potions stored in slot zero of player seven. -/
def potionRows : List DbItemInfo :=
  [⟨0, 1, 98, false⟩]

/-- The inventory table with the potions stored. -/
def potionTable : InventoryTable :=
  InventoryTable.ofRows 7 potionRows (by decide)

/-- The inventory that was loaded from it. -/
def potionStart : Inventory :=
  (fresh (ObjID.user 1) 7 {}).loadFromDB SlotOrder.ascending potionRows

/-- The inventory starts as the table has it. -/
theorem potion_equal (index : SlotIndex) :
    potionTable.storedAt 7 index = (potionStart.slots index).map Item.view := by
  have extracted := InventoryTable.extracts_ofRows 7 potionRows (by decide)
  rw [potionStart, loaded_view extracted]
  by_cases zero : index = 0
  · subst zero
    decide
  · have nothing : potionTable.storedAt 7 index = none := by
      have other : (0 : Int16) ≠ index.toInt16 := by
        intro same
        have zeroColumn : index.toInt16 = (0 : UInt16).toInt16 := same.symm
        exact zero (toInt16_inj.mp zeroColumn)
      simp [InventoryTable.storedAt, potionTable, InventoryTable.ofRows, InventoryTable.find,
        potionRows, InventoryRow.key, other]
    rw [potionTable] at nothing
    rw [potionTable, nothing]
    rfl

/-- One pickup, which fills two stacks. -/
def potionPickup : List InventoryCall :=
  [(SlotOrder.ascending, .addItem 1 3)]

/-- The first of the two saves it issues. -/
def firstSave : ItemRequest :=
  .saveItem 7 0 1 99 false

/-- Picking up three potions fills slot zero and opens slot one; stopping
between the two requests stores neither the old nor the new inventory. -/
theorem not_crashAtomic_of_split : ¬CrashAtomic 7 potionTable potionPickup potionStart := by
  intro atomic
  have completes : (runOps potionPickup potionStart).isSome := by decide
  rcases Option.isSome_iff_exists.mp completes with ⟨final, ran⟩
  have issued : (runOps potionPickup potionStart).map Inventory.issued =
      some [firstSave, .saveItem 7 1 1 2 false] := by decide
  have opened : (runOps potionPickup potionStart).map
      (fun reached => (reached.slots 1).map Item.view) = some (some ⟨1, 2, false⟩) := by decide
  have topped : (Transition.replay InventoryTable.processItem [firstSave] potionTable).storedAt 7
      0 = some ⟨1, 99, false⟩ := by decide
  have missing : (Transition.replay InventoryTable.processItem [firstSave] potionTable).storedAt 7
      1 = none := by decide
  rw [ran, Option.map_some, Option.some_inj] at issued opened
  rcases atomic final ran [firstSave] ⟨_, issued.symm⟩ with ⟨count, bound, middle, reached, agrees⟩
  match count with
  | 0 =>
      obtain rfl : potionStart = middle := Option.some.inj reached
      have slotZero := topped.symm.trans (agrees 0)
      revert slotZero
      decide
  | 1 =>
      obtain rfl : final = middle := Option.some.inj (ran.symm.trans reached)
      have slotOne := missing.symm.trans (agrees 1)
      rw [opened] at slotOne
      simp at slotOne
  | more + 2 =>
      have single : potionPickup.length = 1 := rfl
      omega

/-- Topping up a stack that has room for the whole pickup is such a run. -/
theorem crashAtomic_of_unsplit_sample :
    CrashAtomic 7 potionTable [(SlotOrder.ascending, .addItem 1 1),
      (SlotOrder.ascending, .swapSlots 0 4)] potionStart := by
  apply crashAtomic_of_unsplit (ObjID.user 1) 7 {} SlotOrder.ascending potionTable potionRows
    (InventoryTable.extracts_ofRows 7 potionRows (by decide))
  · intro index
    rw [← potionStart, potion_equal]
  · refine ⟨?_, fun next taken => ⟨trivial, fun _ _ => trivial⟩⟩
    intro row found
    obtain rfl : _ = row := Option.some.inj found
    exact .inr (by decide)

end Inventory

end Mmorpg
