import Mmorpg.Item.InventoryInvariant
import Mathlib.Algebra.BigOperators.Group.Finset.Basic
import Mathlib.Algebra.GroupWithZero.Nat
import Mathlib.Data.FinEnum

/-!
# What `TryAddItem` adds

The dry run leaves the requested count less the room it finds, so an addition
is accepted exactly when the room suffices.  The commit pass is a chain of
top-ups and fills; along the chain the quantity of the item and the count still
to place have a constant sum.
-/

namespace Mmorpg

open Finset

/-- The iteration of the slot map meets every stored key and no other. -/
def SlotOrder.Visits (order : SlotOrder) (slots : Slots) : Prop :=
  ∀ index, index ∈ order.order slots ↔ (slots index).isSome

/-- With valid slots every held stack is visited. -/
theorem SlotOrder.visits_of_keysValid (order : SlotOrder) {slots : Slots}
    (keys : slots.KeysValid) : order.Visits slots :=
  order.mem_iff slots keys

/-! ## Quantities -/

/-- How many pieces of the item one slot holds. -/
def heldCount (itemId : ItemTableId) : Option Item → Nat
  | none => 0
  | some item => if item.itemTableId = itemId then item.count.toNat else 0

/-- How many pieces of the item the slots hold together. -/
def Slots.quantity (itemId : ItemTableId) (slots : Slots) : Nat :=
  ∑ index : SlotIndex, heldCount itemId (slots index)

/-- Changing one slot exchanges its share of the quantity. -/
theorem Slots.quantity_update (itemId : ItemTableId) (slots : Slots) (index : SlotIndex)
    (content : Option Item) :
    Slots.quantity itemId (Function.update slots index content) +
        heldCount itemId (slots index) =
      slots.quantity itemId + heldCount itemId content := by
  have others : ∑ other ∈ univ.erase index,
        heldCount itemId (Function.update slots index content other) =
      ∑ other ∈ univ.erase index, heldCount itemId (slots other) := by
    apply sum_congr rfl
    intro other member
    rw [Function.update_of_ne (ne_of_mem_erase member)]
  rw [quantity, quantity, ← add_sum_erase _ _ (mem_univ index), others, Function.update_self,
    ← add_sum_erase _ _ (mem_univ index)]
  omega

namespace Inventory

/-! ## Room -/

/-- Room in a free slot. -/
def freeRoom (row : ItemTableRow) : Option Item → Nat
  | none => row.maxStack.toNat
  | some _ => 0

/-- What `maxStack` leaves above a slot holding the item. -/
def heldRoom (row : ItemTableRow) (itemId : ItemTableId) : Option Item → Nat
  | none => 0
  | some item =>
      if item.itemTableId = itemId then row.maxStack.toNat - item.count.toNat else 0

/-- Room for the item: in the slots that hold it, and in the free slots. -/
def roomFor (row : ItemTableRow) (itemId : ItemTableId) (slots : Slots) : Nat :=
  ∑ index : SlotIndex, heldRoom row itemId (slots index) +
    row.maxStack.toNat * slotIndices.countP fun index => (slots index).isNone

/-- A stack of the item has room up to its maximum. -/
theorem heldRoom_of_hasRoom {row : ItemTableRow} {itemId : ItemTableId} {item : Item}
    (room : hasRoom row itemId item = true) :
    heldRoom row itemId (some item) = row.maxStack.toNat - item.count.toNat :=
  if_pos (hasRoom_iff.mp room).1

theorem heldRoom_of_not_hasRoom {row : ItemTableRow} {itemId : ItemTableId} {item : Item}
    (full : hasRoom row itemId item ≠ true) : heldRoom row itemId (some item) = 0 := by
  rw [Ne, hasRoom_iff, not_and, Nat.not_lt] at full
  by_cases sameId : item.itemTableId = itemId
  · simp [heldRoom, sameId, Nat.sub_eq_zero_of_le (full sameId)]
  · simp [heldRoom, sameId]

/-- An item that does not stack leaves no room in a slot that holds it. -/
theorem heldRoom_of_single {row : ItemTableRow} {itemId : ItemTableId} {slots : Slots}
    (single : ¬row.maxStack > 1) (counted : slots.All Item.Counted) (index : SlotIndex) :
    heldRoom row itemId (slots index) = 0 := by
  cases stored : slots index with
  | none => rfl
  | some item =>
      rcases counted index item stored with ⟨own, ownFound, positive, _⟩
      have small : row.maxStack.toNat ≤ 1 := by
        rwa [gt_iff_lt, UInt16.lt_iff_toNat_lt, Nat.not_lt] at single
      by_cases sameId : item.itemTableId = itemId
      · simp only [heldRoom, sameId, if_true]
        omega
      · simp [heldRoom, sameId]

/-- Every empty slot has room for a whole stack. -/
theorem sum_freeRoom (row : ItemTableRow) (slots : Slots) (indices : List SlotIndex) :
    (indices.map fun index => freeRoom row (slots index)).sum =
      row.maxStack.toNat * indices.countP fun index => (slots index).isNone := by
  induction indices with
  | nil => simp
  | cons index rest ih =>
      rw [List.map_cons, List.sum_cons, ih]
      cases stored : slots index with
      | none =>
          rw [List.countP_cons_of_pos (by simp [stored]), Nat.mul_succ, Nat.add_comm]
          rfl
      | some item => simp [freeRoom, stored]

/-- The stacks an addition visits hold all the room in the slots of the item. -/
theorem sum_stackOrder {row : ItemTableRow} {itemId : ItemTableId} {order : SlotOrder}
    {slots : Slots} (counted : slots.All Item.Counted) (visits : order.Visits slots) :
    ((stackOrder order row slots).map fun index => heldRoom row itemId (slots index)).sum =
      ∑ index : SlotIndex, heldRoom row itemId (slots index) := by
  by_cases stackable : row.maxStack > 1
  · rw [stackOrder, if_pos stackable, ← List.sum_toFinset _ (order.nodup slots)]
    apply sum_subset (subset_univ _)
    intro index _ unvisited
    rw [List.mem_toFinset, visits index, Option.not_isSome_iff_eq_none] at unvisited
    rw [unvisited]
    rfl
  · rw [stackOrder, if_neg stackable]
    exact (sum_eq_zero fun index _ => heldRoom_of_single stackable counted index).symm

/-! ## The dry run -/

theorem toNat_sub_stdMin (room remaining : UInt16) :
    (remaining - stdMin room remaining).toNat = remaining.toNat - room.toNat := by
  have placed := toNat_stdMin room remaining
  rw [UInt16.toNat_sub_of_le _ _ (UInt16.le_iff_toNat_le.mpr (by omega)), placed]
  omega

theorem toNat_maxStack_sub {row : ItemTableRow} {itemId : ItemTableId} {item : Item}
    (room : hasRoom row itemId item = true) :
    (row.maxStack - item.count).toNat = row.maxStack.toNat - item.count.toNat :=
  UInt16.toNat_sub_of_le _ _ (UInt16.le_iff_toNat_le.mpr (hasRoom_iff.mp room).2.le)

/-- The dry run over the stacks takes off their room. -/
theorem toNat_dryStacks (row : ItemTableRow) (itemId : ItemTableId) (slots : Slots)
    (indices : List SlotIndex) (remaining : UInt16) :
    (dryStacks row itemId slots indices remaining).toNat =
      remaining.toNat - (indices.map fun index => heldRoom row itemId (slots index)).sum := by
  induction indices generalizing remaining with
  | nil => rfl
  | cons index rest ih =>
      rw [List.map_cons, List.sum_cons, dryStacks]
      by_cases done : remaining = 0
      · simp [done]
      · rw [if_neg done]
        cases stored : slots index with
        | none => simpa [heldRoom] using ih remaining
        | some item =>
            by_cases room : hasRoom row itemId item = true
            · simp only [room, if_true]
              rw [ih, toNat_sub_stdMin, toNat_maxStack_sub room, heldRoom_of_hasRoom room]
              omega
            · simp only [room]
              rw [heldRoom_of_not_hasRoom room, Nat.zero_add]
              exact ih remaining

/-- The dry run over the empty slots takes off theirs. -/
theorem toNat_dryFree (row : ItemTableRow) (slots : Slots) (indices : List SlotIndex)
    (remaining : UInt16) :
    (dryFree row slots indices remaining).toNat =
      remaining.toNat - (indices.map fun index => freeRoom row (slots index)).sum := by
  induction indices generalizing remaining with
  | nil => rfl
  | cons index rest ih =>
      rw [List.map_cons, List.sum_cons, dryFree]
      by_cases more : remaining > 0
      · rw [if_pos more]
        cases stored : slots index with
        | none =>
            have here : freeRoom row none = row.maxStack.toNat := rfl
            simp only
            rw [ih, toNat_sub_stdMin, here]
            omega
        | some item => simpa [freeRoom] using ih remaining
      · have done : remaining.toNat = 0 := by
          rw [gt_iff_lt, UInt16.lt_iff_toNat_lt, Nat.not_lt] at more
          exact Nat.le_zero.mp more
        simp [more, done]

/-- The dry run leaves the count less the room for the item. -/
theorem toNat_unplaced {row : ItemTableRow} {itemId : ItemTableId} {order : SlotOrder}
    {slots : Slots} (counted : slots.All Item.Counted) (visits : order.Visits slots)
    (count : UInt16) :
    (dryFree row slots slotIndices
        (dryStacks row itemId slots (stackOrder order row slots) count)).toNat =
      count.toNat - roomFor row itemId slots := by
  rw [toNat_dryFree, toNat_dryStacks, sum_stackOrder counted visits, sum_freeRoom, roomFor]
  omega

/-! ## The commit pass -/

/-- The touched slots are exactly those that differ from the starting slots,
each listed once. -/
structure AddState.Tracks (start : Slots) (state : AddState) : Prop where
  nodup : state.touched.Nodup
  mem_iff : ∀ index, index ∈ state.touched ↔ state.slots index ≠ start index

/-- A slot is written once and appears once among the touched ones. -/
theorem AddState.Tracks.write {start : Slots} {state : AddState} (tracks : state.Tracks start)
    {index : SlotIndex} (fresh : index ∉ state.touched) {item : Item}
    (changed : some item ≠ state.slots index) (remaining : UInt16) :
    AddState.Tracks start
      { slots := state.slots.insert index item
        remaining := remaining
        touched := state.touched ++ [index] } where
  nodup := List.nodup_append.mpr
    ⟨tracks.nodup, List.nodup_singleton index, fun other member last isLast same =>
      fresh (List.mem_singleton.mp isLast ▸ same ▸ member)⟩
  mem_iff other := by
    simp only [List.mem_append, List.mem_singleton, Slots.insert_apply]
    by_cases same : other = index
    · subst same
      have unchanged : state.slots other = start other := by
        simpa using mt (tracks.mem_iff other).mpr fresh
      simpa [← unchanged] using changed
    · simpa [same] using tracks.mem_iff other

/-- The item of a slot, unless it is the added one. -/
def otherItem (itemId : ItemTableId) (content : Option Item) : Option Item :=
  content.filter fun item => item.itemTableId ≠ itemId

section Commit

variable {row : ItemTableRow} {itemId : ItemTableId} {ownerId : ObjID} {first last : AddState}

/-- A top-up makes the stack larger. -/
theorem topUp_ne {item : Item} (room : hasRoom row itemId item = true) {remaining : UInt16}
    (more : remaining ≠ 0) :
    item.addCount (stdMin (row.maxStack - item.count) remaining) ≠ item := by
  intro same
  have grown := addCount_topUp_toNat room remaining
  have short := (hasRoom_iff.mp room).2
  have positive : remaining.toNat ≠ 0 := fun zero => more (UInt16.toNat_inj.mp zero)
  rw [same] at grown
  omega

theorem AddStep.tracks {start : Slots} (link : AddStep row itemId ownerId first last)
    (tracks : first.Tracks start) : last.Tracks start := by
  cases link with
  | topUp index item stored room fresh more =>
      apply tracks.write fresh
      rw [stored, Ne, Option.some.injEq]
      exact topUp_ne room more
  | fill index newItem stored listed fresh more made =>
      apply tracks.write fresh
      simp [stored]

/-- What leaves the count still to place arrives in the slots. -/
theorem AddStep.quantity (found : ItemTable.find itemId = some row)
    (link : AddStep row itemId ownerId first last) :
    last.slots.quantity itemId + last.remaining.toNat =
      first.slots.quantity itemId + first.remaining.toNat := by
  cases link with
  | topUp index item stored room fresh more =>
      have exchange := Slots.quantity_update itemId first.slots index
        (some (item.addCount (stdMin (row.maxStack - item.count) first.remaining)))
      have grown := addCount_topUp_toNat room first.remaining
      have left := toNat_sub_stdMin (row.maxStack - item.count) first.remaining
      have sameId := (hasRoom_iff.mp room).1
      have addedId : (item.addCount (stdMin (row.maxStack - item.count)
          first.remaining)).itemTableId = itemId := sameId
      rw [toNat_maxStack_sub room] at left
      rw [stored, heldCount, heldCount, if_pos sameId, if_pos addedId, grown] at exchange
      simp only [Slots.insert, left]
      omega
  | fill index newItem stored listed fresh more made =>
      have exchange := Slots.quantity_update itemId first.slots index
        (some { newItem with ownerId := ownerId })
      rw [makeNewItem_eq_some _ found] at made
      obtain rfl := Option.some.inj made
      have left := toNat_sub_stdMin row.maxStack first.remaining
      rw [stored] at exchange
      simp only [heldCount, if_true, toNat_stdMin] at exchange
      simp only [Slots.insert, left]
      omega

/-- Other items and every equipped flag stay. -/
theorem AddStep.kept (found : ItemTable.find itemId = some row)
    (link : AddStep row itemId ownerId first last) (index : SlotIndex) :
    otherItem itemId (last.slots index) = otherItem itemId (first.slots index) ∧
      (last.slots index).any Item.isEquipped = (first.slots index).any Item.isEquipped := by
  cases link with
  | topUp written item stored room fresh more =>
      simp only [Slots.insert_apply]
      by_cases here : index = written
      · have sameId := (hasRoom_iff.mp room).1
        simp [here, stored, otherItem, Option.filter, Item.addCount, sameId, Item.isEquipped]
      · simp [here]
  | fill written newItem stored listed fresh more made =>
      rw [makeNewItem_eq_some _ found] at made
      obtain rfl := Option.some.inj made
      simp only [Slots.insert_apply]
      by_cases here : index = written
      · by_cases equipment : row.type = .eEquipment <;>
          simp [here, stored, otherItem, Option.filter, Item.isEquipped, equipment]
      · simp [here]

/-- The touched slots are those that changed. -/
theorem AddRun.tracks {start : Slots} (run : AddRun row itemId ownerId first last)
    (tracks : first.Tracks start) : last.Tracks start := by
  induction run with
  | refl => exact tracks
  | tail _ link ih => exact link.tracks ih

/-- What is added and what remains are what was to be added. -/
theorem AddRun.quantity (found : ItemTable.find itemId = some row)
    (run : AddRun row itemId ownerId first last) :
    last.slots.quantity itemId + last.remaining.toNat =
      first.slots.quantity itemId + first.remaining.toNat := by
  induction run with
  | refl => rfl
  | tail _ link ih => rw [link.quantity found, ih]

/-- Slots of other items and the equipped ones stay as they are. -/
theorem AddRun.kept (found : ItemTable.find itemId = some row)
    (run : AddRun row itemId ownerId first last) (index : SlotIndex) :
    otherItem itemId (last.slots index) = otherItem itemId (first.slots index) ∧
      (last.slots index).any Item.isEquipped = (first.slots index).any Item.isEquipped := by
  induction run with
  | refl => exact ⟨rfl, rfl⟩
  | tail _ link ih =>
      obtain ⟨others, flags⟩ := link.kept found index
      exact ⟨others.trans ih.1, flags.trans ih.2⟩

end Commit

/-! ## Sixteen-bit arithmetic -/

/-- One subtraction or addition of 16-bit counts, with its operands. -/
inductive CountOp
  | sub (left right : UInt16)
  | add (left right : UInt16)
  deriving DecidableEq, Repr

/-- The stored result is the integer result. -/
def CountOp.Exact : CountOp → Prop
  | sub left right => ((left - right).toNat : Int) = left.toNat - right.toNat
  | add left right => (left + right).toNat = left.toNat + right.toNat

/-- The operations of `dryStacks`, in order. -/
def dryStacksOps (row : ItemTableRow) (itemId : ItemTableId) (slots : Slots) :
    List SlotIndex → UInt16 → List CountOp
  | [], _ => []
  | index :: rest, remaining =>
      if remaining = 0 then
        []
      else
        match slots index with
        | some item =>
            if hasRoom row itemId item then
              let added := stdMin (row.maxStack - item.count) remaining
              [.sub row.maxStack item.count, .sub remaining added] ++
                dryStacksOps row itemId slots rest (remaining - added)
            else
              dryStacksOps row itemId slots rest remaining
        | none => dryStacksOps row itemId slots rest remaining

/-- The operations of `dryFree`. -/
def dryFreeOps (row : ItemTableRow) (slots : Slots) : List SlotIndex → UInt16 → List CountOp
  | [], _ => []
  | index :: rest, remaining =>
      if remaining > 0 then
        match slots index with
        | none =>
            let added := stdMin row.maxStack remaining
            .sub remaining added :: dryFreeOps row slots rest (remaining - added)
        | some _ => dryFreeOps row slots rest remaining
      else
        []

/-- The operations of `commitStacks`. -/
def commitStacksOps (row : ItemTableRow) (itemId : ItemTableId) :
    List SlotIndex → AddState → List CountOp
  | [], _ => []
  | index :: rest, state =>
      if state.remaining = 0 then
        []
      else
        match state.slots index with
        | some item =>
            if hasRoom row itemId item then
              let added := stdMin (row.maxStack - item.count) state.remaining
              [.sub row.maxStack item.count, .add item.count added, .sub state.remaining added] ++
                commitStacksOps row itemId rest
                  { slots := state.slots.insert index (item.addCount added)
                    remaining := state.remaining - added
                    touched := state.touched ++ [index] }
            else
              commitStacksOps row itemId rest state
        | none => commitStacksOps row itemId rest state

/-- The operations of `commitFree`, up to a failed assertion. -/
def commitFreeOps (row : ItemTableRow) (itemId : ItemTableId) (ownerId : ObjID) :
    List SlotIndex → AddState → List CountOp
  | [], _ => []
  | index :: rest, state =>
      if state.remaining > 0 then
        match state.slots index with
        | some _ => commitFreeOps row itemId ownerId rest state
        | none =>
            let added := stdMin row.maxStack state.remaining
            match makeNewItem itemId added with
            | none => []
            | some newItem =>
                .sub state.remaining added ::
                  commitFreeOps row itemId ownerId rest
                    { slots := state.slots.insert index { newItem with ownerId := ownerId }
                      remaining := state.remaining - added
                      touched := state.touched ++ [index] }
      else
        []

/-- Every operation on counts that `tryAddItem` performs. -/
def tryAddItemOps (order : SlotOrder) (itemId : ItemTableId) (count : UInt16)
    (inventory : Inventory) : List CountOp :=
  if count = 0 then
    []
  else
    match ItemTable.find itemId with
    | none => []
    | some row =>
        let visited := stackOrder order row inventory.slots
        let stacked := dryStacks row itemId inventory.slots visited count
        let dryOps := dryStacksOps row itemId inventory.slots visited count ++
          dryFreeOps row inventory.slots slotIndices stacked
        if dryFree row inventory.slots slotIndices stacked > 0 then
          dryOps
        else
          let start : AddState := ⟨inventory.slots, count, []⟩
          dryOps ++ commitStacksOps row itemId visited start ++
            commitFreeOps row itemId inventory.ownerId slotIndices
              (commitStacks row itemId visited start)

section Exact

variable {row : ItemTableRow} {itemId : ItemTableId}

/-- A subtraction of a smaller number is exact. -/
theorem exact_sub {left right : UInt16} (fits : right.toNat ≤ left.toNat) :
    (CountOp.sub left right).Exact := by
  rw [CountOp.Exact, UInt16.toNat_sub_of_le _ _ (UInt16.le_iff_toNat_le.mpr fits)]
  omega

theorem exact_sub_stdMin (room remaining : UInt16) :
    (CountOp.sub remaining (stdMin room remaining)).Exact := by
  apply exact_sub
  rw [toNat_stdMin]
  exact Nat.min_le_right _ _

theorem exact_maxStack_sub {item : Item} (room : hasRoom row itemId item = true) :
    (CountOp.sub row.maxStack item.count).Exact :=
  exact_sub (hasRoom_iff.mp room).2.le

theorem exact_add_topUp {item : Item} (room : hasRoom row itemId item = true)
    (remaining : UInt16) :
    (CountOp.add item.count (stdMin (row.maxStack - item.count) remaining)).Exact := by
  have grown := addCount_topUp_toNat room remaining
  rw [Item.addCount] at grown
  rw [CountOp.Exact, toNat_stdMin, toNat_maxStack_sub room]
  exact grown

/-- No subtraction of the first dry run wraps around. -/
theorem dryStacksOps_exact (slots : Slots) (indices : List SlotIndex) (remaining : UInt16) :
    ∀ op ∈ dryStacksOps row itemId slots indices remaining, op.Exact := by
  induction indices generalizing remaining with
  | nil => simp [dryStacksOps]
  | cons index rest ih =>
      rw [dryStacksOps]
      by_cases done : remaining = 0
      · simp [done]
      · rw [if_neg done]
        cases stored : slots index with
        | none => exact ih remaining
        | some item =>
            by_cases room : hasRoom row itemId item = true
            · simp only [room, if_true, List.mem_append, List.mem_cons, List.not_mem_nil, or_false]
              rintro op ((rfl | rfl) | later)
              · exact exact_maxStack_sub room
              · exact exact_sub_stdMin _ remaining
              · exact ih _ op later
            · simp only [room]
              exact ih remaining

/-- No subtraction of the second dry run wraps around. -/
theorem dryFreeOps_exact (slots : Slots) (indices : List SlotIndex) (remaining : UInt16) :
    ∀ op ∈ dryFreeOps row slots indices remaining, op.Exact := by
  induction indices generalizing remaining with
  | nil => simp [dryFreeOps]
  | cons index rest ih =>
      rw [dryFreeOps]
      by_cases more : remaining > 0
      · rw [if_pos more]
        cases stored : slots index with
        | none =>
            simp only [List.mem_cons]
            rintro op (rfl | later)
            · exact exact_sub_stdMin _ remaining
            · exact ih _ op later
        | some item => exact ih remaining
      · simp [more]

/-- Nothing wraps around while stacks are filled. -/
theorem commitStacksOps_exact (indices : List SlotIndex) (state : AddState) :
    ∀ op ∈ commitStacksOps row itemId indices state, op.Exact := by
  induction indices generalizing state with
  | nil => simp [commitStacksOps]
  | cons index rest ih =>
      rw [commitStacksOps]
      by_cases done : state.remaining = 0
      · simp [done]
      · rw [if_neg done]
        cases stored : state.slots index with
        | none => exact ih state
        | some item =>
            by_cases room : hasRoom row itemId item = true
            · simp only [room, if_true, List.mem_append, List.mem_cons, List.not_mem_nil, or_false]
              rintro op ((rfl | rfl | rfl) | later)
              · exact exact_maxStack_sub room
              · exact exact_add_topUp room state.remaining
              · exact exact_sub_stdMin _ state.remaining
              · exact ih _ op later
            · simp only [room]
              exact ih state

/-- Nothing wraps around while empty slots are filled. -/
theorem commitFreeOps_exact (ownerId : ObjID) (indices : List SlotIndex) (state : AddState) :
    ∀ op ∈ commitFreeOps row itemId ownerId indices state, op.Exact := by
  induction indices generalizing state with
  | nil => simp [commitFreeOps]
  | cons index rest ih =>
      rw [commitFreeOps]
      by_cases more : state.remaining > 0
      · rw [if_pos more]
        cases stored : state.slots index with
        | some item => exact ih state
        | none =>
            cases made : makeNewItem itemId (stdMin row.maxStack state.remaining) with
            | none => simp [made]
            | some newItem =>
                simp only [made, List.mem_cons]
                rintro op (rfl | later)
                · exact exact_sub_stdMin _ state.remaining
                · exact ih _ op later
      · simp [more]

end Exact

/-- No 16-bit operation of an addition wraps. -/
theorem tryAddItemOps_exact (order : SlotOrder) (itemId : ItemTableId) (count : UInt16)
    (inventory : Inventory) : ∀ op ∈ inventory.tryAddItemOps order itemId count, op.Exact := by
  by_cases empty : count = 0
  · simp [tryAddItemOps, empty]
  · rw [tryAddItemOps, if_neg empty]
    cases found : ItemTable.find itemId with
    | none => simp
    | some row =>
        intro op member
        simp only at member
        split at member
        · rcases List.mem_append.mp member with inStacks | inFree
          · exact dryStacksOps_exact _ _ _ op inStacks
          · exact dryFreeOps_exact _ _ _ op inFree
        · simp only [List.mem_append] at member
          rcases member with ((inStacks | inFree) | topped) | filled
          · exact dryStacksOps_exact _ _ _ op inStacks
          · exact dryFreeOps_exact _ _ _ op inFree
          · exact commitStacksOps_exact _ _ op topped
          · exact commitFreeOps_exact _ _ _ op filled

/-! ## The whole operation -/

/-- What a successful addition does. -/
structure Added (itemId : ItemTableId) (count : UInt16) (before after : Inventory)
    (touched : List SlotIndex) : Prop where
  quantity : after.slots.quantity itemId = before.slots.quantity itemId + count.toNat
  others : ∀ index, otherItem itemId (after.slots index) = otherItem itemId (before.slots index)
  flags : ∀ index,
    (after.slots index).any Item.isEquipped = (before.slots index).any Item.isEquipped
  counted : after.slots.All Item.Counted
  touchedOnce : touched.Nodup
  mem_touched : ∀ index, index ∈ touched ↔ after.slots index ≠ before.slots index

/-- A full room is a refusal, any other request is served. -/
theorem tryAddItem_isSome_iff {order : SlotOrder} {itemId : ItemTableId} {count : UInt16}
    {inventory after : Inventory} {result : Option (List SlotIndex)}
    (counted : inventory.slots.All Item.Counted) (visits : order.Visits inventory.slots)
    (ran : inventory.tryAddItem order itemId count = some (result, after)) :
    result.isSome = true ↔ 0 < count ∧ ∃ row, ItemTable.find itemId = some row ∧
      count.toNat ≤ roomFor row itemId inventory.slots := by
  by_cases empty : count = 0
  · rw [tryAddItem, if_pos empty] at ran
    obtain ⟨rfl, rfl⟩ := Prod.mk.inj (Option.some.inj ran)
    simp [empty]
  · have positive : 0 < count := UInt16.pos_iff_ne_zero.mpr empty
    rw [tryAddItem, if_neg empty] at ran
    cases found : ItemTable.find itemId with
    | none =>
        rw [found] at ran
        obtain ⟨rfl, rfl⟩ := Prod.mk.inj (Option.some.inj ran)
        simp
    | some row =>
        have left : (dryFree row inventory.slots slotIndices (dryStacks row itemId inventory.slots
            (stackOrder order row inventory.slots) count)).toNat =
              count.toNat - roomFor row itemId inventory.slots :=
          toNat_unplaced counted visits count
        simp only [found] at ran
        simp only [positive, true_and, Option.some.injEq, exists_eq_left']
        split at ran
        · next unplaced =>
          obtain ⟨rfl, rfl⟩ := Prod.mk.inj (Option.some.inj ran)
          rw [gt_iff_lt, UInt16.lt_iff_toNat_lt, UInt16.toNat_zero] at unplaced
          simp only [Option.isSome_none, Bool.false_eq_true, false_iff, Nat.not_le]
          omega
        · next placed =>
          rcases Option.map_eq_some_iff.mp ran with ⟨final, _, same⟩
          obtain ⟨rfl, _⟩ := Prod.mk.inj same
          rw [gt_iff_lt, UInt16.lt_iff_toNat_lt, UInt16.toNat_zero] at placed
          simp only [Option.isSome_some, true_iff]
          omega

/-- The chain of a successful addition places the whole count. -/
theorem AddRun.added {row : ItemTableRow} {itemId : ItemTableId} {count : UInt16}
    {inventory : Inventory} {final : AddState} (found : ItemTable.find itemId = some row)
    (counted : inventory.slots.All Item.Counted)
    (run : AddRun row itemId inventory.ownerId ⟨inventory.slots, count, []⟩ final)
    (placed : final.remaining = 0) (issued : List ItemRequest) :
    Added itemId count inventory
      { inventory with slots := final.slots, issued := issued } final.touched := by
  have start : AddState.Tracks inventory.slots ⟨inventory.slots, count, []⟩ :=
    ⟨List.nodup_nil, by simp⟩
  have tracks := run.tracks start
  have balance := run.quantity found
  rw [placed, UInt16.toNat_zero, Nat.add_zero] at balance
  exact {
    quantity := balance
    others := fun index => (run.kept found index).1
    flags := fun index => (run.kept found index).2
    counted := run.all (counted_rule inventory.ownerId) found counted
    touchedOnce := tracks.nodup
    mem_touched := tracks.mem_iff }

/-- `TryAddItem` is all or nothing and exact. -/
theorem tryAddItem_exact (order : SlotOrder) (itemId : ItemTableId) (count : UInt16)
    (inventory : Inventory) (counted : inventory.slots.All Item.Counted)
    (visits : order.Visits inventory.slots) :
    ∃ result after, inventory.tryAddItem order itemId count = some (result, after) ∧
      (result.isSome = true ↔ 0 < count ∧ ∃ row, ItemTable.find itemId = some row ∧
        count.toNat ≤ roomFor row itemId inventory.slots) ∧
      (∀ touched, result = some touched → Added itemId count inventory after touched) ∧
      (result = none → after = inventory) ∧
      ∀ op ∈ inventory.tryAddItemOps order itemId count, op.Exact := by
  rcases inventory.tryAddItem_cases order itemId count with
    failed | ⟨row, final, found, _, run, placed, added⟩
  · exact ⟨none, inventory, failed, tryAddItem_isSome_iff counted visits failed, by simp,
      fun _ => rfl, inventory.tryAddItemOps_exact order itemId count⟩
  · refine ⟨some final.touched, _, added, tryAddItem_isSome_iff counted visits added, ?_,
      by simp, inventory.tryAddItemOps_exact order itemId count⟩
    rintro _ ⟨⟩
    exact run.added found counted placed _

/-- Ninety-eight potions in slot four and nothing else. -/
def potionShelf : Inventory :=
  { fresh (ObjID.user 1) 7 {} with
    slots := Function.update (fun _ => none) 4
      (some { itemTableId := 1, count := 98, cls := .consumable, name := "Health Potion" }) }

/-- Three hundred potions top up that stack and open four slots. -/
theorem tryAddItem_exact_potionShelf :
    ∃ after, potionShelf.tryAddItem SlotOrder.ascending 1 300 =
        some (some [4, 0, 1, 2, 3], after) ∧
      Added 1 300 potionShelf after [4, 0, 1, 2, 3] := by
  have counted : potionShelf.slots.All Item.Counted := by
    apply Slots.All.update
    · intro index item stored
      contradiction
    · rintro item ⟨⟩
      exact ⟨⟨1, .eConsumable, 99, "Health Potion", .eNone, 0, 30⟩, rfl, by decide, by decide⟩
  have keys : potionShelf.slots.KeysValid :=
    Slots.KeysValid.update (fun index occupied => by contradiction) (by decide) _
  obtain ⟨result, after, ran, _, added, _⟩ := tryAddItem_exact SlotOrder.ascending 1 300
    potionShelf counted (SlotOrder.ascending.visits_of_keysValid keys)
  have touched : (potionShelf.tryAddItem SlotOrder.ascending 1 300).map Prod.fst =
      some (some [4, 0, 1, 2, 3]) := by decide
  rw [ran, Option.map_some, Option.some.injEq] at touched
  subst touched
  exact ⟨after, ran, added _ rfl⟩

end Inventory

end Mmorpg
