import Mmorpg.Item.Inventory
import Mathlib.Logic.Relation
import Mathlib.Logic.Equiv.Basic

/-!
# What one inventory operation can do

Each operation either reports failure and changes nothing, or changes a few
slots and hands the database thread their final states.  `TryAddItem` is
reduced to a chain of single top-ups and fills; later invariants are proved for
one link of that chain.
-/

namespace Mmorpg

namespace Inventory

@[simp]
theorem recomputeOffensive_slots (order : SlotOrder) (inventory : Inventory) :
    (inventory.recomputeOffensive order).slots = inventory.slots :=
  rfl

@[simp]
theorem saveSlotToDB_slots (index : SlotIndex) (inventory : Inventory) :
    (inventory.saveSlotToDB index).slots = inventory.slots :=
  rfl

@[simp]
theorem saveTwoSlotsToDB_slots (indexA indexB : SlotIndex) (inventory : Inventory) :
    (inventory.saveTwoSlotsToDB indexA indexB).slots = inventory.slots :=
  rfl

/-- Saving several slots in a row issues one request each and changes nothing
else. -/
theorem foldl_saveSlotToDB (touched : List SlotIndex) (inventory : Inventory) :
    touched.foldl (fun saved index => saved.saveSlotToDB index) inventory =
      { inventory with issued := inventory.issued ++ touched.map inventory.slotRequest } := by
  induction touched generalizing inventory with
  | nil => simp
  | cons index rest ih =>
      rw [List.foldl_cons, ih]
      simp only [saveSlotToDB, List.map_cons, List.append_assoc, List.singleton_append]
      rfl

/-! ## The commit pass of `TryAddItem` -/

/-- One link of the commit pass: top up a stack with room, or fill a free slot
with a new item. -/
inductive AddStep (row : ItemTableRow) (itemId : ItemTableId) (ownerId : ObjID) :
    AddState → AddState → Prop
  | topUp {state : AddState} (index : SlotIndex) (item : Item) :
      state.slots index = some item → hasRoom row itemId item = true → index ∉ state.touched →
      state.remaining ≠ 0 →
      AddStep row itemId ownerId state
        { slots := state.slots.insert index
            (item.addCount (stdMin (row.maxStack - item.count) state.remaining))
          remaining := state.remaining - stdMin (row.maxStack - item.count) state.remaining
          touched := state.touched ++ [index] }
  | fill {state : AddState} (index : SlotIndex) (newItem : Item) :
      state.slots index = none → index ∈ slotIndices → index ∉ state.touched →
      state.remaining ≠ 0 →
      makeNewItem itemId (stdMin row.maxStack state.remaining) = some newItem →
      AddStep row itemId ownerId state
        { slots := state.slots.insert index { newItem with ownerId := ownerId }
          remaining := state.remaining - stdMin row.maxStack state.remaining
          touched := state.touched ++ [index] }

/-- A chain of commit links. -/
abbrev AddRun (row : ItemTableRow) (itemId : ItemTableId) (ownerId : ObjID) :
    AddState → AddState → Prop :=
  Relation.ReflTransGen (AddStep row itemId ownerId)

variable {row : ItemTableRow} {itemId : ItemTableId} {ownerId : ObjID}

theorem commitStacks_addRun (indices : List SlotIndex) (state : AddState)
    (nodup : indices.Nodup) (fresh : ∀ index ∈ indices, index ∉ state.touched) :
    AddRun row itemId ownerId state (commitStacks row itemId indices state) := by
  induction indices generalizing state with
  | nil => exact .refl
  | cons index rest ih =>
      obtain ⟨notLater, restNodup⟩ := List.nodup_cons.mp nodup
      have restFresh : ∀ other ∈ rest, other ∉ state.touched :=
        fun other member => fresh other (List.mem_cons_of_mem _ member)
      unfold commitStacks
      split
      · exact .refl
      · next more =>
        cases stored : state.slots index with
        | none => exact ih state restNodup restFresh
        | some item =>
            by_cases room : hasRoom row itemId item = true
            · simp only [room, if_true]
              refine .head (.topUp index item stored room (fresh index List.mem_cons_self) more)
                (ih _ restNodup ?_)
              intro other member
              simp only [List.mem_append, List.mem_singleton, not_or]
              exact ⟨restFresh other member, fun same => notLater (same ▸ member)⟩
            · simp only [room]
              exact ih state restNodup restFresh

/-- The dry run over the stacks only reads the slots it visits. -/
theorem dryStacks_congr {first second : Slots} (indices : List SlotIndex) (remaining : UInt16)
    (agree : ∀ index ∈ indices, first index = second index) :
    dryStacks row itemId first indices remaining =
      dryStacks row itemId second indices remaining := by
  induction indices generalizing remaining with
  | nil => rfl
  | cons index rest ih =>
      have restAgree : ∀ other ∈ rest, first other = second other :=
        fun other member => agree other (List.mem_cons_of_mem _ member)
      simp only [dryStacks, agree index List.mem_cons_self]
      split
      · rfl
      · split
        · split <;> exact ih _ restAgree
        · exact ih _ restAgree

/-- Dry run and commit pass agree on what is left after the stacks. -/
theorem commitStacks_remaining (indices : List SlotIndex) (state : AddState)
    (nodup : indices.Nodup) :
    (commitStacks row itemId indices state).remaining =
      dryStacks row itemId state.slots indices state.remaining := by
  induction indices generalizing state with
  | nil => rfl
  | cons index rest ih =>
      obtain ⟨notLater, restNodup⟩ := List.nodup_cons.mp nodup
      simp only [commitStacks, dryStacks]
      split
      · rfl
      · cases stored : state.slots index with
        | none => exact ih state restNodup
        | some item =>
            by_cases room : hasRoom row itemId item = true
            · simp only [room, if_true]
              rw [ih _ restNodup]
              apply dryStacks_congr
              intro other member
              have different : other ≠ index := fun same => notLater (same ▸ member)
              simp [Slots.insert_apply, different]
            · simp only [room]
              exact ih state restNodup

theorem commitStacks_isSome (indices : List SlotIndex) (state : AddState) (other : SlotIndex) :
    ((commitStacks row itemId indices state).slots other).isSome =
      (state.slots other).isSome := by
  induction indices generalizing state with
  | nil => rfl
  | cons index rest ih =>
      simp only [commitStacks]
      split
      · rfl
      · cases stored : state.slots index with
        | none => exact ih state
        | some item =>
            by_cases room : hasRoom row itemId item = true
            · simp only [room, if_true]
              rw [ih]
              by_cases same : other = index
              · subst same
                simp [Slots.insert_apply, stored]
              · simp [Slots.insert_apply, same]
            · simp only [room]
              exact ih state

/-- With the item listed, filling free slots cannot fail, is a chain of links
and leaves exactly what the dry run predicted. -/
theorem commitFree_spec (indices : List SlotIndex) (state : AddState) (before : Slots)
    (found : ItemTable.find itemId = some row) (nodup : indices.Nodup)
    (listed : ∀ index ∈ indices, index ∈ slotIndices)
    (occupied : ∀ index ∈ state.touched, (state.slots index).isSome)
    (agree : ∀ index ∈ indices, (before index).isSome = (state.slots index).isSome) :
    ∃ final, commitFree row itemId ownerId indices state = some final ∧
      AddRun row itemId ownerId state final ∧
      final.remaining = dryFree row before indices state.remaining := by
  induction indices generalizing state with
  | nil => exact ⟨state, rfl, .refl, rfl⟩
  | cons index rest ih =>
      obtain ⟨notLater, restNodup⟩ := List.nodup_cons.mp nodup
      have restListed : ∀ other ∈ rest, other ∈ slotIndices :=
        fun other member => listed other (List.mem_cons_of_mem _ member)
      have restAgree : ∀ other ∈ rest, (before other).isSome = (state.slots other).isSome :=
        fun other member => agree other (List.mem_cons_of_mem _ member)
      have sameHere := agree index List.mem_cons_self
      simp only [commitFree, dryFree]
      split
      · next more =>
        cases stored : state.slots index with
        | some item =>
            rw [stored, Option.isSome_some, Option.isSome_iff_exists] at sameHere
            obtain ⟨old, oldAt⟩ := sameHere
            simp only [oldAt]
            exact ih state restNodup restListed occupied restAgree
        | none =>
            rw [stored, Option.isSome_none, Option.isSome_eq_false_iff,
              Option.isNone_iff_eq_none] at sameHere
            obtain ⟨newItem, made⟩ : ∃ newItem,
                makeNewItem itemId (stdMin row.maxStack state.remaining) = some newItem :=
              ⟨_, makeNewItem_eq_some _ found⟩
            have positive : state.remaining ≠ 0 := by
              intro zero
              rw [zero] at more
              exact absurd more (by decide)
            have freshHere : index ∉ state.touched := by
              intro member
              have filled := occupied index member
              simp [stored] at filled
            simp only [sameHere, made]
            let filled : AddState :=
              { slots := state.slots.insert index { newItem with ownerId := ownerId }
                remaining := state.remaining - stdMin row.maxStack state.remaining
                touched := state.touched ++ [index] }
            have filledOccupied : ∀ other ∈ filled.touched, (filled.slots other).isSome := by
              intro other member
              simp only [filled, List.mem_append, List.mem_singleton] at member
              by_cases same : other = index
              · simp [filled, Slots.insert_apply, same]
              · simpa [filled, Slots.insert_apply, same] using
                  occupied other (member.resolve_right same)
            have filledAgree : ∀ other ∈ rest,
                (before other).isSome = (filled.slots other).isSome := by
              intro other member
              have different : other ≠ index := fun same => notLater (same ▸ member)
              simpa [filled, Slots.insert_apply, different] using restAgree other member
            obtain ⟨final, ran, chain, left⟩ :=
              ih filled restNodup restListed filledOccupied filledAgree
            exact ⟨final, ran,
              .head (.fill index _ stored (listed index List.mem_cons_self) freshHere positive made)
                chain, left⟩
      · exact ⟨state, rfl, .refl, rfl⟩

theorem AddRun.touched_occupied {first last : AddState}
    (run : AddRun row itemId ownerId first last)
    (occupied : ∀ index ∈ first.touched, (first.slots index).isSome) :
    ∀ index ∈ last.touched, (last.slots index).isSome := by
  induction run with
  | refl => exact occupied
  | tail _ link ih =>
      cases link with
      | topUp index item stored room fresh more =>
          intro other member
          by_cases same : other = index
          · simp [Slots.insert_apply, same]
          · have earlier := (List.mem_append.mp member).resolve_right (by simpa using same)
            simpa [Slots.insert_apply, same] using ih other earlier
      | fill index newItem stored listed fresh more made =>
          intro other member
          by_cases same : other = index
          · simp [Slots.insert_apply, same]
          · have earlier := (List.mem_append.mp member).resolve_right (by simpa using same)
            simpa [Slots.insert_apply, same] using ih other earlier

/-- Slots that were never touched keep their item. -/
theorem AddRun.untouched {first last : AddState} (run : AddRun row itemId ownerId first last) :
    ∀ index, index ∉ last.touched → last.slots index = first.slots index := by
  induction run with
  | refl => exact fun _ _ => rfl
  | tail _ link ih =>
      cases link with
      | topUp index item stored room fresh more =>
          intro other untouched
          simp only [List.mem_append, List.mem_singleton, not_or] at untouched
          simpa [Slots.insert_apply, untouched.2] using ih other untouched.1
      | fill index newItem stored listed fresh more made =>
          intro other untouched
          simp only [List.mem_append, List.mem_singleton, not_or] at untouched
          simpa [Slots.insert_apply, untouched.2] using ih other untouched.1

/-- Everything `TryAddItem` can do: fail without a change, or run a chain of
links that places the whole count and then save each touched slot. -/
theorem tryAddItem_cases (order : SlotOrder) (itemId : ItemTableId) (count : UInt16)
    (inventory : Inventory) :
    inventory.tryAddItem order itemId count = some (none, inventory) ∨
      ∃ row final, ItemTable.find itemId = some row ∧ count ≠ 0 ∧
        AddRun row itemId inventory.ownerId ⟨inventory.slots, count, []⟩ final ∧
        final.remaining = 0 ∧
        inventory.tryAddItem order itemId count = some (some final.touched,
          { inventory with
            slots := final.slots
            issued := inventory.issued ++
              final.touched.map { inventory with slots := final.slots }.slotRequest }) := by
  by_cases empty : count = 0
  · exact .inl (by simp [tryAddItem, empty])
  · cases found : ItemTable.find itemId with
    | none => exact .inl (by simp [tryAddItem, found])
    | some row =>
        let visited := stackOrder order row inventory.slots
        let topped := commitStacks row itemId visited ⟨inventory.slots, count, []⟩
        have visitedNodup : visited.Nodup := by
          simp only [visited, stackOrder]
          split
          · exact order.nodup _
          · exact List.nodup_nil
        have toppedRun : AddRun row itemId inventory.ownerId ⟨inventory.slots, count, []⟩ topped :=
          commitStacks_addRun visited _ visitedNodup (by simp)
        have toppedLeft : topped.remaining = dryStacks row itemId inventory.slots visited count :=
          commitStacks_remaining visited _ visitedNodup
        have sameKeys : ∀ index ∈ slotIndices,
            (inventory.slots index).isSome = (topped.slots index).isSome :=
          fun index _ => (commitStacks_isSome visited ⟨inventory.slots, count, []⟩ index).symm
        obtain ⟨final, committed, fillRun, left⟩ :=
          @commitFree_spec row itemId inventory.ownerId slotIndices topped inventory.slots found
            slotIndices_nodup (fun _ member => member) (toppedRun.touched_occupied (by simp))
            sameKeys
        by_cases unplaced : dryFree row inventory.slots slotIndices topped.remaining > 0
        · refine .inl ?_
          simp only [tryAddItem, empty, found, ← toppedLeft, visited, unplaced, if_true, if_false]
        · have placed : final.remaining = 0 := by
            rw [left]
            simpa [UInt16.pos_iff_ne_zero] using unplaced
          refine .inr ⟨row, final, rfl, empty, toppedRun.trans fillRun, placed, ?_⟩
          simp only [tryAddItem, empty, found, ← toppedLeft, visited, unplaced, if_false]
          simp only [topped] at committed
          rw [committed, Option.map_some, foldl_saveSlotToDB]

/-! ## Saved batches -/

/-- One call of `SaveSlotToDB` or `SaveTwoSlotsToDB`. -/
inductive SaveBatch
  | one (index : SlotIndex)
  | two (indexA indexB : SlotIndex)
  deriving DecidableEq, Repr

namespace SaveBatch

/-- The slots whose final states a batch writes. -/
def slots : SaveBatch → List SlotIndex
  | one index => [index]
  | two indexA indexB => [indexA, indexB]

/-- The request a batch issues for the present inventory. -/
def request (inventory : Inventory) : SaveBatch → ItemRequest
  | one index => inventory.slotRequest index
  | two indexA indexB =>
      .saveTwoItems inventory.playerId (inventory.describe indexA) (inventory.describe indexB)

end SaveBatch

/-- The operation changed only the slots of `batches` and issued their final
states, in order. -/
structure Persisted (before after : Inventory) (batches : List SaveBatch) : Prop where
  ownerId : after.ownerId = before.ownerId
  playerId : after.playerId = before.playerId
  issued : after.issued = before.issued ++ batches.map (SaveBatch.request after)
  untouched : ∀ index, (∀ batch ∈ batches, index ∉ batch.slots) →
    after.slots index = before.slots index
  distinct : ∀ batch ∈ batches, batch.slots.Nodup

theorem persisted_one {before after : Inventory} (index : SlotIndex)
    (ownerId : after.ownerId = before.ownerId) (playerId : after.playerId = before.playerId)
    (issued : after.issued = before.issued)
    (untouched : ∀ other, other ≠ index → after.slots other = before.slots other) :
    Persisted before (after.saveSlotToDB index) [.one index] where
  ownerId := ownerId
  playerId := playerId
  issued := by simp only [saveSlotToDB, issued]; rfl
  untouched other outside := untouched other (by simpa [SaveBatch.slots] using outside)
  distinct := by simp [SaveBatch.slots]

theorem persisted_two {before after : Inventory} (indexA indexB : SlotIndex)
    (ownerId : after.ownerId = before.ownerId) (playerId : after.playerId = before.playerId)
    (issued : after.issued = before.issued) (different : indexA ≠ indexB)
    (untouched : ∀ other, other ≠ indexA → other ≠ indexB →
      after.slots other = before.slots other) :
    Persisted before (after.saveTwoSlotsToDB indexA indexB) [.two indexA indexB] where
  ownerId := ownerId
  playerId := playerId
  issued := by simp only [saveTwoSlotsToDB, issued]; rfl
  untouched other outside := by
    have apart : other ≠ indexA ∧ other ≠ indexB := by simpa [SaveBatch.slots] using outside
    exact untouched other apart.1 apart.2
  distinct := by simp [SaveBatch.slots, different]

/-! ## Slot changes -/

/-- What is left of a slot after `count` items are taken out of it. -/
def afterTaking (count : UInt16) (item : Item) : Option Item :=
  if (item.removeCount count).count = 0 then none else some (item.removeCount count)

/-- No slot but `index` holds equipped gear, provided all keys are valid. -/
def AloneAt (slots : Slots) (index : SlotIndex) : Prop :=
  (∀ key, (slots key).isSome → isValidSlotIndex key) →
    ∀ other, other ≠ index → (slots other).any Item.isEquipped = false

/-- The possible effects of a successful operation on the slots, with the
batches it saves. -/
inductive SlotChange (ownerId : ObjID) : Slots → Slots → List SaveBatch → Prop
  | added {slots : Slots} (row : ItemTableRow) (itemId : ItemTableId) (count : UInt16)
      (final : AddState) :
      ItemTable.find itemId = some row → count ≠ 0 →
      AddRun row itemId ownerId ⟨slots, count, []⟩ final → final.remaining = 0 →
      SlotChange ownerId slots final.slots (final.touched.map .one)
  | taken {slots : Slots} (index : SlotIndex) (count : UInt16) (item : Item) :
      slots index = some item → isValidSlotIndex index → count ≠ 0 →
      SlotChange ownerId slots (Function.update slots index (afterTaking count item)) [.one index]
  | equipped {slots : Slots} (index : SlotIndex) (item : Item) :
      slots index = some item → isValidSlotIndex index → item.isEquipment = true →
      AloneAt slots index →
      SlotChange ownerId slots (slots.modify index (Item.setEquipped true)) [.one index]
  | replaced {slots : Slots} (previous index : SlotIndex) (item worn : Item) :
      slots index = some item → isValidSlotIndex index → item.isEquipment = true →
      previous ≠ index → slots previous = some worn → worn.isEquipped = true →
      SlotChange ownerId slots
        ((slots.modify previous (Item.setEquipped false)).modify index (Item.setEquipped true))
        [.two previous index]
  | unequipped {slots : Slots} (index : SlotIndex) (item : Item) :
      slots index = some item → isValidSlotIndex index →
      SlotChange ownerId slots (slots.modify index (Item.setEquipped false)) [.one index]
  | swapped {slots : Slots} (indexA indexB : SlotIndex) :
      isValidSlotIndex indexA → isValidSlotIndex indexB → indexA ≠ indexB →
      SlotChange ownerId slots (slots ∘ Equiv.swap indexA indexB) [.two indexA indexB]

/-- A successful operation: a slot change whose batches are all persisted. -/
def Succeeded (before after : Inventory) (batches : List SaveBatch) : Prop :=
  SlotChange before.ownerId before.slots after.slots batches ∧ Persisted before after batches

/-- An accepted addition saves each touched slot. -/
theorem tryAddItem_succeeded {order : SlotOrder} {itemId : ItemTableId} {count : UInt16}
    {inventory after : Inventory} {touched : List SlotIndex}
    (ran : inventory.tryAddItem order itemId count = some (some touched, after)) :
    Succeeded inventory after (touched.map .one) := by
  rcases tryAddItem_cases order itemId count inventory with
    failed | ⟨row, final, found, positive, chain, placed, added⟩
  · rw [failed] at ran
    simp at ran
  · rw [added] at ran
    obtain ⟨rfl, rfl⟩ : final.touched = touched ∧ _ = after := by simpa using ran
    refine ⟨.added row itemId count final found positive chain placed, ?_⟩
    exact
      { ownerId := rfl
        playerId := rfl
        issued := by simp only [List.map_map]; rfl
        untouched := fun index outside => chain.untouched index fun member =>
          outside (.one index) (List.mem_map_of_mem member) (by simp [SaveBatch.slots])
        distinct := by
          intro batch member
          obtain ⟨index, _, rfl⟩ := List.mem_map.mp member
          simp [SaveBatch.slots] }

theorem holdsAtLeast_eq_some {inventory : Inventory} {index : SlotIndex} {count : UInt16}
    {item : Item} (held : inventory.holdsAtLeast index count = some item) :
    count ≠ 0 ∧ isValidSlotIndex index ∧ inventory.slots index = some item ∧
      count.toNat ≤ item.count.toNat := by
  unfold holdsAtLeast at held
  split at held
  · contradiction
  · next wellFormed =>
    simp only [not_or, Bool.not_eq_true', Bool.not_eq_false] at wellFormed
    cases stored : inventory.slots index with
    | none => simp [stored] at held
    | some found =>
        simp only [stored] at held
        split at held
        · contradiction
        · next enough =>
          obtain rfl := Option.some.inj held
          have bound : ¬found.count.toNat < count.toNat :=
            fun short => enough (UInt16.lt_iff_toNat_lt.mpr short)
          exact ⟨wellFormed.1, wellFormed.2, rfl, by omega⟩

/-- Writing the reduced item back, or erasing an emptied slot, leaves
`afterTaking`. -/
theorem takeSlot_eq (slots : Slots) (index : SlotIndex) (count : UInt16) (item : Item) :
    (if (item.removeCount count).count = 0 then slots.erase index
      else slots.insert index (item.removeCount count)) =
      Function.update slots index (afterTaking count item) := by
  unfold afterTaking Slots.erase Slots.insert
  split <;> rfl

theorem succeeded_taken {before after : Inventory} {index : SlotIndex} {count : UInt16}
    {item : Item} (stored : before.slots index = some item) (valid : isValidSlotIndex index)
    (positive : count ≠ 0) (ownerId : after.ownerId = before.ownerId)
    (playerId : after.playerId = before.playerId) (issued : after.issued = before.issued)
    (slots : after.slots = Function.update before.slots index (afterTaking count item)) :
    Succeeded before (after.saveSlotToDB index) [.one index] := by
  refine ⟨?_, persisted_one index ownerId playerId issued ?_⟩
  · rw [saveSlotToDB_slots, slots]
    exact .taken index count item stored valid positive
  · intro other different
    rw [slots, Function.update_of_ne different]

theorem tryRemoveItem_cases (index : SlotIndex) (count : UInt16) (inventory : Inventory) :
    inventory.tryRemoveItem index count = (false, inventory) ∨
      ∃ after, inventory.tryRemoveItem index count = (true, after) ∧
        Succeeded inventory after [.one index] := by
  cases held : inventory.holdsAtLeast index count with
  | none => exact .inl (by simp [tryRemoveItem, held])
  | some item =>
      obtain ⟨positive, valid, stored, _⟩ := holdsAtLeast_eq_some held
      refine .inr ⟨_, by simp only [tryRemoveItem, held]; rfl, ?_⟩
      exact succeeded_taken stored valid positive rfl rfl rfl (takeSlot_eq _ _ _ _)

/-- A full extraction hands over the stored instance, a partial one a new
instance with the requested count; both take the count out of the slot. -/
theorem tryExtractItem_cases (order : SlotOrder) (index : SlotIndex) (count : UInt16)
    (inventory : Inventory) :
    inventory.tryExtractItem order index count = some (none, inventory) ∨
      ∃ item, inventory.slots index = some item ∧ count ≠ 0 ∧ count.toNat ≤ item.count.toNat ∧
        ((count ≠ item.count ∧ ItemTable.find item.itemTableId = none ∧
            inventory.tryExtractItem order index count = none) ∨
          ∃ extracted after,
            inventory.tryExtractItem order index count = some (some extracted, after) ∧
            extracted.itemTableId = item.itemTableId ∧ extracted.count = count ∧
            extracted.ownerId = ObjID.npos ∧
            after.slots = Function.update inventory.slots index (afterTaking count item) ∧
            Succeeded inventory after [.one index]) := by
  cases held : inventory.holdsAtLeast index count with
  | none => exact .inl (by simp [tryExtractItem, held])
  | some item =>
      obtain ⟨positive, valid, stored, enough⟩ := holdsAtLeast_eq_some held
      refine .inr ⟨item, stored, positive, enough, ?_⟩
      by_cases whole : item.count = count
      · have emptied : afterTaking count item = none := by
          have zero : (item.removeCount count).count.toNat = 0 := by
            rw [Item.removeCount_toNat, whole, Nat.sub_self]
          simp [afterTaking, UInt16.toNat_inj.mp (zero.trans UInt16.toNat_zero.symm)]
        have slots : inventory.slots.erase index =
            Function.update inventory.slots index (afterTaking count item) := by
          rw [emptied, Slots.erase]
        refine .inr ⟨_, _, by simp only [tryExtractItem, held, whole, if_true]; rfl, ?_, ?_, rfl,
          ?_, ?_⟩
        · simp
        · simp [whole]
        · split <;> exact slots
        · split <;> exact succeeded_taken stored valid positive rfl rfl rfl slots
      · have smaller : count ≠ item.count := fun same => whole same.symm
        have left : (item.removeCount count).count ≠ 0 := by
          intro zero
          have taken := Item.removeCount_toNat count item
          rw [zero, UInt16.toNat_zero] at taken
          exact smaller (UInt16.toNat_inj.mp (by omega))
        have slots : inventory.slots.insert index (item.removeCount count) =
            Function.update inventory.slots index (afterTaking count item) := by
          simp [afterTaking, left, Slots.insert]
        cases found : ItemTable.find item.itemTableId with
        | none =>
            have unmade := (makeNewItem_eq_none_iff item.itemTableId count).mpr found
            exact .inl ⟨smaller, rfl, by simp [tryExtractItem, held, whole, unmade]⟩
        | some row =>
            have made := makeNewItem_eq_some count found
            have extracted : ∃ extracted : Item,
                inventory.tryExtractItem order index count = some (some extracted,
                  saveSlotToDB index
                    { inventory with
                      slots := inventory.slots.insert index (item.removeCount count) }) ∧
                extracted.itemTableId = item.itemTableId ∧ extracted.count = count ∧
                extracted.ownerId = ObjID.npos := by
              simp [tryExtractItem, held, whole, made]
            obtain ⟨newItem, ran, sameId, sameCount, unowned⟩ := extracted
            exact .inr ⟨newItem, _, ran, sameId, sameCount, unowned, slots,
              succeeded_taken stored valid positive rfl rfl rfl slots⟩

theorem aloneAt_of_otherEquipped_eq_none {order : SlotOrder} {index : SlotIndex}
    {inventory : Inventory} (nobody : inventory.otherEquipped order index = none) :
    AloneAt inventory.slots index := by
  intro valid other different
  by_cases occupied : (inventory.slots other).isSome
  · have visited := (order.mem_iff inventory.slots valid other).mpr occupied
    have skipped := List.find?_eq_none.mp nobody other visited
    simpa [different] using skipped
  · have empty : inventory.slots other = none := by simpa using occupied
    simp [empty]

theorem otherEquipped_eq_some {order : SlotOrder} {index previous : SlotIndex}
    {inventory : Inventory} (met : inventory.otherEquipped order index = some previous) :
    previous ≠ index ∧ ∃ worn, inventory.slots previous = some worn ∧ worn.isEquipped = true := by
  have matched := List.find?_some met
  simp only [ne_eq, decide_eq_true_eq, Option.any_eq_true] at matched
  obtain ⟨different, worn, stored, equipped⟩ := matched
  exact ⟨different, worn, stored, equipped⟩

/-- Equipping reports the automatically unequipped slot exactly when it saved
two slots. -/
theorem tryEquip_cases (order : SlotOrder) (index : SlotIndex) (inventory : Inventory) :
    inventory.tryEquip order index = ((false, none), inventory) ∨
      ∃ previous after, inventory.tryEquip order index = ((true, previous), after) ∧
        Succeeded inventory after
          [previous.elim (.one index) fun slot => .two slot index] := by
  by_cases valid : isValidSlotIndex index
  · cases stored : inventory.slots index with
    | none => exact .inl (by simp [tryEquip, valid, stored])
    | some item =>
        by_cases wearable : item.isEquipment = true ∧ item.isEquipped = false
        · refine .inr ?_
          obtain ⟨equipment, bare⟩ := wearable
          cases met : inventory.otherEquipped order index with
          | some previous =>
              obtain ⟨different, worn, wornAt, equipped⟩ := otherEquipped_eq_some met
              refine ⟨some previous, _,
                by simp only [tryEquip, valid, stored, equipment, bare, met]; rfl, ?_, ?_⟩
              · exact .replaced previous index item worn stored valid equipment different wornAt
                  equipped
              · refine persisted_two previous index rfl rfl rfl different ?_
                intro other notPrevious notIndex
                simp [Slots.modify_apply, notPrevious, notIndex]
          | none =>
              refine ⟨none, _, by simp only [tryEquip, valid, stored, equipment, bare, met]; rfl,
                ?_, ?_⟩
              · exact .equipped index item stored valid equipment
                  (aloneAt_of_otherEquipped_eq_none met)
              · refine persisted_one index rfl rfl rfl ?_
                intro other notIndex
                simp [Slots.modify_apply, notIndex]
        · have refused : (!item.isEquipment) = true ∨ item.isEquipped = true := by
            by_cases equipment : item.isEquipment = true
            · exact .inr (by simpa [equipment] using wearable)
            · exact .inl (by simpa using equipment)
          exact .inl (by simp only [tryEquip, valid, stored, refused]; rfl)
  · exact .inl (by simp [tryEquip, valid])

/-- Taking off is refused, or saves its slot. -/
theorem tryUnequip_cases (order : SlotOrder) (index : SlotIndex) (inventory : Inventory) :
    inventory.tryUnequip order index = (false, inventory) ∨
      ∃ after, inventory.tryUnequip order index = (true, after) ∧
        Succeeded inventory after [.one index] := by
  by_cases valid : isValidSlotIndex index
  · cases stored : inventory.slots index with
    | none => exact .inl (by simp [tryUnequip, valid, stored])
    | some item =>
        by_cases refused : (!item.isEquipment) = true ∨ (!item.isEquipped) = true
        · exact .inl (by simp only [tryUnequip, valid, stored, refused]; rfl)
        · refine .inr ⟨_, by simp only [tryUnequip, valid, stored, refused]; rfl, ?_, ?_⟩
          · exact .unequipped index item stored valid
          · refine persisted_one index rfl rfl rfl ?_
            intro other notIndex
            simp [Slots.modify_apply, notIndex]
  · exact .inl (by simp [tryUnequip, valid])

/-- Using an item takes one out of its slot. -/
theorem tryUseItem_cases (index : SlotIndex) (inventory : Inventory) :
    inventory.tryUseItem index = some (false, inventory) ∨
      ∃ item, inventory.slots index = some item ∧ item.isEquipment = false ∧
        ((ItemTable.find item.itemTableId = none ∧ inventory.tryUseItem index = none) ∨
          ∃ after, inventory.tryUseItem index = some (true, after) ∧
            after.slots = Function.update inventory.slots index (afterTaking 1 item) ∧
            Succeeded inventory after [.one index]) := by
  by_cases valid : isValidSlotIndex index
  · cases stored : inventory.slots index with
    | none => exact .inl (by simp [tryUseItem, valid, stored])
    | some item =>
        by_cases equipment : item.isEquipment = true
        · exact .inl (by simp [tryUseItem, valid, stored, equipment])
        · have consumable : item.isEquipment = false := by simpa using equipment
          refine .inr ⟨item, rfl, consumable, ?_⟩
          cases found : ItemTable.find item.itemTableId with
          | none => exact .inl ⟨rfl, by simp [tryUseItem, valid, stored, consumable, found]⟩
          | some row =>
              have slots := takeSlot_eq inventory.slots index 1 item
              refine .inr ⟨_, by simp only [tryUseItem, valid, stored, consumable, found]; rfl,
                slots, ?_⟩
              exact succeeded_taken stored valid (by decide) rfl rfl rfl slots
  · exact .inl (by simp [tryUseItem, valid])

/-- Writing the two sides crosswise exchanges the slots. -/
theorem swapSlots_eq (slots : Slots) {indexA indexB : SlotIndex} (different : indexA ≠ indexB) :
    Function.update (Function.update slots indexB (slots indexA)) indexA (slots indexB) =
      slots ∘ Equiv.swap indexA indexB := by
  funext index
  by_cases atA : index = indexA
  · subst atA
    simp
  · by_cases atB : index = indexB
    · subst atB
      simp [Function.update_of_ne atA]
    · simp [Function.update_of_ne atA, Function.update_of_ne atB,
        Equiv.swap_apply_of_ne_of_ne atA atB]

/-- A swap is refused, or saves both slots in one request. -/
theorem trySwapSlots_cases (indexA indexB : SlotIndex) (inventory : Inventory) :
    inventory.trySwapSlots indexA indexB = (false, inventory) ∨
      ∃ after, inventory.trySwapSlots indexA indexB = (true, after) ∧
        after.slots = inventory.slots ∘ Equiv.swap indexA indexB ∧
        Succeeded inventory after [.two indexA indexB] := by
  by_cases invalid : (!isValidSlotIndex indexA) = true ∨ (!isValidSlotIndex indexB) = true
  · exact .inl (by simp only [trySwapSlots, invalid]; rfl)
  · by_cases same : indexA = indexB
    · exact .inl (by rw [trySwapSlots, if_neg invalid, if_pos same])
    · by_cases empty : inventory.slots indexA = none ∧ inventory.slots indexB = none
      · exact .inl (by simp only [trySwapSlots, invalid, same, empty]; rfl)
      · have valid : isValidSlotIndex indexA ∧ isValidSlotIndex indexB := by
          simpa [not_or] using invalid
        let crossed :=
          Function.update (Function.update inventory.slots indexB (inventory.slots indexA)) indexA
            (inventory.slots indexB)
        have crossedEq : crossed = inventory.slots ∘ Equiv.swap indexA indexB :=
          swapSlots_eq inventory.slots same
        have ran : inventory.trySwapSlots indexA indexB =
            (true, saveTwoSlotsToDB indexA indexB { inventory with slots := crossed }) := by
          simp only [trySwapSlots, invalid, same, empty, if_false]
          cases atA : inventory.slots indexA <;> cases atB : inventory.slots indexB <;>
            simp [crossed, Slots.insert, Slots.erase, atA, atB]
        refine .inr ⟨_, ran, crossedEq, ?_, ?_⟩
        · rw [saveTwoSlotsToDB_slots, crossedEq]
          exact .swapped indexA indexB valid.1 valid.2 same
        · refine persisted_two indexA indexB rfl rfl rfl same ?_
          intro other notA notB
          simp [crossed, Function.update_of_ne notA, Function.update_of_ne notB]

/-! ## The owner -/

/-- The inventory of the same player, who is as alive as before. -/
structure SameOwner (before after : Inventory) : Prop where
  playerId : after.playerId = before.playerId
  dead : after.stat.dead = before.stat.dead

theorem SameOwner.refl (inventory : Inventory) : SameOwner inventory inventory :=
  ⟨rfl, rfl⟩

theorem tryAddItem_sameOwner {order : SlotOrder} {itemId : ItemTableId} {count : UInt16}
    {inventory : Inventory} {result : Option (List SlotIndex) × Inventory}
    (ran : inventory.tryAddItem order itemId count = some result) :
    SameOwner inventory result.2 := by
  rcases tryAddItem_cases order itemId count inventory with failed | ⟨_, _, _, _, _, _, added⟩
  · rw [failed] at ran
    exact Option.some.inj ran ▸ SameOwner.refl inventory
  · rw [added] at ran
    exact Option.some.inj ran ▸ ⟨rfl, rfl⟩

theorem tryExtractItem_sameOwner {order : SlotOrder} {index : SlotIndex} {count : UInt16}
    {inventory : Inventory} {result : Option Item × Inventory}
    (ran : inventory.tryExtractItem order index count = some result) :
    SameOwner inventory result.2 := by
  unfold tryExtractItem at ran
  split at ran
  · exact Option.some.inj ran ▸ SameOwner.refl inventory
  · split at ran
    · rw [← Option.some.inj ran]
      dsimp only
      split <;> exact ⟨rfl, rfl⟩
    · dsimp only at ran
      split at ran
      · contradiction
      · exact Option.some.inj ran ▸ ⟨rfl, rfl⟩

theorem tryEquip_sameOwner (order : SlotOrder) (index : SlotIndex) (inventory : Inventory) :
    SameOwner inventory (inventory.tryEquip order index).2 := by
  unfold tryEquip
  split
  · exact SameOwner.refl inventory
  · split
    · exact SameOwner.refl inventory
    · split
      · exact SameOwner.refl inventory
      · split <;> exact ⟨rfl, rfl⟩

theorem tryUnequip_sameOwner (order : SlotOrder) (index : SlotIndex) (inventory : Inventory) :
    SameOwner inventory (inventory.tryUnequip order index).2 := by
  unfold tryUnequip
  split
  · exact SameOwner.refl inventory
  · split
    · exact SameOwner.refl inventory
    · split <;> exact ⟨rfl, rfl⟩

theorem tryUseItem_sameOwner {index : SlotIndex} {inventory : Inventory}
    {result : Bool × Inventory} (ran : inventory.tryUseItem index = some result) :
    SameOwner inventory result.2 := by
  unfold tryUseItem at ran
  split at ran
  · exact Option.some.inj ran ▸ SameOwner.refl inventory
  · split at ran
    · exact Option.some.inj ran ▸ SameOwner.refl inventory
    · split at ran
      · exact Option.some.inj ran ▸ SameOwner.refl inventory
      · split at ran
        · contradiction
        · rw [← Option.some.inj ran]
          dsimp only [saveSlotToDB]
          split <;> exact ⟨rfl, rfl⟩

theorem trySwapSlots_sameOwner (indexA indexB : SlotIndex) (inventory : Inventory) :
    SameOwner inventory (inventory.trySwapSlots indexA indexB).2 := by
  unfold trySwapSlots
  split
  · exact SameOwner.refl inventory
  · split
    · exact SameOwner.refl inventory
    · split <;> exact ⟨rfl, rfl⟩

end Inventory

/-! ## The combined statement -/

/-- An operation that spreads over several requests is an addition. -/
def InventoryOp.isAddItem : InventoryOp → Bool
  | addItem .. => true
  | _ => false

/-- What a completed operation did: nothing on failure, one successful change
otherwise, saved in a single batch unless it added items. -/
theorem InventoryOp.run_cases {order : SlotOrder} {op : InventoryOp}
    {inventory after : Inventory} {flag : Bool} (ran : op.run order inventory = some (flag, after)) :
    (flag = false ∧ after = inventory) ∨
      (flag = true ∧ ∃ batches, inventory.Succeeded after batches ∧
        (op.isAddItem = false → batches.length = 1)) := by
  cases op with
  | addItem itemId count =>
      simp only [InventoryOp.run, Option.map_eq_some_iff] at ran
      obtain ⟨⟨touched, final⟩, added, outcome⟩ := ran
      obtain ⟨rfl, rfl⟩ := Prod.mk.inj outcome
      cases touched with
      | none =>
          rcases inventory.tryAddItem_cases order itemId count with
            failed | ⟨_, _, _, _, _, _, succeeded⟩
          · rw [failed] at added
            exact .inl ⟨rfl, by simpa using added.symm⟩
          · rw [succeeded] at added
            simp at added
      | some touched =>
          exact .inr ⟨rfl, _, Inventory.tryAddItem_succeeded added, by simp [isAddItem]⟩
  | removeItem index count =>
      have result := Option.some.inj ran
      rcases inventory.tryRemoveItem_cases index count with failed | ⟨_, removed, succeeded⟩
      · rw [failed] at result
        exact .inl (by simpa [eq_comm] using result)
      · rw [removed] at result
        obtain ⟨rfl, rfl⟩ := Prod.mk.inj result
        exact .inr ⟨rfl, _, succeeded, fun _ => rfl⟩
  | extractItem index count =>
      simp only [InventoryOp.run, Option.map_eq_some_iff] at ran
      obtain ⟨result, extracted, outcome⟩ := ran
      rcases inventory.tryExtractItem_cases order index count with
        failed | ⟨_, _, _, _, ⟨_, _, crash⟩ | ⟨_, _, taken, _, _, _, _, succeeded⟩⟩
      · rw [failed] at extracted
        obtain rfl := Option.some.inj extracted
        exact .inl (by simpa [eq_comm] using outcome)
      · rw [crash] at extracted
        contradiction
      · rw [taken] at extracted
        obtain rfl := Option.some.inj extracted
        obtain ⟨rfl, rfl⟩ := Prod.mk.inj outcome
        exact .inr ⟨rfl, _, succeeded, fun _ => rfl⟩
  | equip index =>
      have result := Option.some.inj ran
      rcases inventory.tryEquip_cases order index with failed | ⟨_, _, worn, succeeded⟩
      · rw [failed] at result
        exact .inl (by simpa [eq_comm] using result)
      · rw [worn] at result
        obtain ⟨rfl, rfl⟩ := Prod.mk.inj result
        exact .inr ⟨rfl, _, succeeded, fun _ => rfl⟩
  | unequip index =>
      have result := Option.some.inj ran
      rcases inventory.tryUnequip_cases order index with failed | ⟨_, bared, succeeded⟩
      · rw [failed] at result
        exact .inl (by simpa [eq_comm] using result)
      · rw [bared] at result
        obtain ⟨rfl, rfl⟩ := Prod.mk.inj result
        exact .inr ⟨rfl, _, succeeded, fun _ => rfl⟩
  | useItem index =>
      rcases inventory.tryUseItem_cases index with
        failed | ⟨_, _, _, ⟨_, crash⟩ | ⟨_, used, _, succeeded⟩⟩
      · rw [InventoryOp.run, failed] at ran
        exact .inl (by simpa [eq_comm] using ran)
      · rw [InventoryOp.run, crash] at ran
        contradiction
      · rw [InventoryOp.run, used] at ran
        obtain ⟨rfl, rfl⟩ : true = flag ∧ _ = after := by simpa using ran
        exact .inr ⟨rfl, _, succeeded, fun _ => rfl⟩
  | swapSlots indexA indexB =>
      have result := Option.some.inj ran
      rcases inventory.trySwapSlots_cases indexA indexB with failed | ⟨_, swapped, _, succeeded⟩
      · rw [failed] at result
        exact .inl (by simpa [eq_comm] using result)
      · rw [swapped] at result
        obtain ⟨rfl, rfl⟩ := Prod.mk.inj result
        exact .inr ⟨rfl, _, succeeded, fun _ => rfl⟩

end Mmorpg
