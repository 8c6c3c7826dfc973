import Mathlib.Algebra.BigOperators.Group.Finset.Piecewise
import Mathlib.Algebra.BigOperators.Group.Finset.Sigma
import Mathlib.Data.Set.Finite.Basic
import Mmorpg.Item.Quantity
import Mmorpg.World.Shelf

/-!
# The pieces of an item in one zone

What the users of a zone carry and what lies in its cells.  Items lie under
numbers, so the sum over the cells is a sum over the numbers that were handed
out, and an operation that concerns one item changes one term of it.
-/

namespace Mmorpg

open ZoneLayout Transition Finset

variable {grid : CollisionGrid}

theorem finite_validSectors (zone : Nat) :
    {sector | Sector.isValidSector zone sector = true}.Finite := by
  refine ((range sectorsPerZoneX.toNat ×ˢ range sectorsPerZoneY.toNat).image
    fun place : Nat × Nat => (⟨Sector.offsetX zone + place.1, Sector.offsetY zone + place.2⟩ :
      SectorCoord)).finite_toSet.subset ?_
  rintro ⟨x, y⟩ valid
  simp only [Set.mem_ofPred_eq, Sector.isValidSector, decide_eq_true_eq] at valid
  simp only [coe_image, Set.mem_image, mem_coe, mem_product, mem_range, SectorCoord.mk.injEq,
    Prod.exists]
  refine ⟨(x - Sector.offsetX zone).toNat, (y - Sector.offsetY zone).toNat, ?_, ?_, ?_⟩
  · omega
  · omega
  · omega

/-- The cells of a zone. -/
noncomputable def zoneSectors (zone : Nat) : Finset SectorCoord :=
  (finite_validSectors zone).toFinset

theorem mem_zoneSectors_iff {zone : Nat} {sector : SectorCoord} :
    sector ∈ zoneSectors zone ↔ Sector.isValidSector zone sector = true :=
  (finite_validSectors zone).mem_toFinset

/-- How many pieces an object on the ground stands for. -/
def Subject.pieces (itemId : ItemTableId) (subject : Subject) : Nat :=
  match subject.body with
  | .item item => heldCount itemId (some item)
  | _ => 0

/-- How many pieces of an item the core lies on the ground with. -/
def Core.pieces (itemId : ItemTableId) : Core → Nat
  | item _ tableId count => if tableId = itemId then count.toNat else 0
  | _ => 0

theorem Subject.core_pieces (itemId : ItemTableId) (subject : Subject) :
    subject.core.pieces itemId = subject.pieces itemId := by
  rcases subject with ⟨name, transform, facing, body⟩
  cases body <;> rfl

namespace World

/-- How many pieces of an item an object is. -/
def pieces (itemId : ItemTableId) (id : ObjID) (world : World) : Nat :=
  match world.objects id with
  | some subject => subject.pieces itemId
  | none => 0

/-- The pieces in the cells of a zone. -/
noncomputable def lying (zone : Nat) (itemId : ItemTableId) (world : World) : Nat :=
  ∑ sector ∈ zoneSectors zone, ∑ id ∈ (world.cells zone sector).ids.toFinset,
    world.pieces itemId id

/-- The pieces in the inventory of a session's user. -/
def carried (session : Nat) (itemId : ItemTableId) (world : World) : Nat :=
  match world.getUser (ObjID.user session) with
  | some (_, user) => user.inventory.slots.quantity itemId
  | none => 0

/-- All pieces of an item that some users carry or that lie in the zone. -/
noncomputable def total (members : Finset Nat) (zone : Nat) (itemId : ItemTableId) (world : World) : Nat :=
  ∑ session ∈ members, world.carried session itemId + world.lying zone itemId

/-- The pieces that lie in the zone as one object. -/
noncomputable def share (zone : Nat) (itemId : ItemTableId) (id : ObjID) (world : World) : Nat :=
  ∑ sector ∈ zoneSectors zone, if id ∈ world.cells zone sector then world.pieces itemId id else 0

variable {zone home number session : Nat} {itemId : ItemTableId} {id : ObjID}
  {choice : Choice grid} {own : ObjID} {world before middle after : World}

theorem pieces_eq_core (id : ObjID) (world : World) :
    world.pieces itemId id = ((world.coreOf id).map (Core.pieces itemId)).getD 0 := by
  rw [pieces, coreOf]
  cases world.objects id with
  | none => rfl
  | some subject => exact (subject.core_pieces itemId).symm

theorem pieces_congr (core : after.coreOf id = before.coreOf id) :
    after.pieces itemId id = before.pieces itemId id := by
  rw [pieces_eq_core, pieces_eq_core, core]

/-- What lies on the ground depends on pieces and cells. -/
theorem lying_congr (pieces : ∀ id, after.pieces itemId id = before.pieces itemId id)
    (cells : after.cells = before.cells) : after.lying zone itemId = before.lying zone itemId := by
  rw [lying, lying, cells]
  exact sum_congr rfl fun sector _ => sum_congr rfl fun id _ => pieces id

/-! ## The sum over the numbers -/

theorem item_of_pieces (filed : Filed world) (some_ : world.pieces itemId id ≠ 0) :
    ∃ number core, id = ObjID.item number ∧ world.coreOf id = some core := by
  rw [pieces] at some_
  split at some_
  · next subject found =>
    have category := filed id subject found
    rw [Subject.pieces] at some_
    split at some_
    · next item bodyOf =>
      refine ⟨id.databaseId, subject.core, ?_, by rw [coreOf, found, Option.map_some]⟩
      rw [Subject.category, bodyOf] at category
      rcases id with ⟨kind, number⟩
      obtain rfl := category
      rfl
    · contradiction
  · contradiction

/-- What lies in a zone lies under the numbers that were handed out. -/
theorem lying_eq (numbering : Numbering world) :
    world.lying zone itemId =
      ∑ number ∈ range world.nextFieldItemId, world.share zone itemId (ObjID.item number) := by
  simp only [lying, share]
  rw [sum_comm]
  refine sum_congr rfl fun sector _ => ?_
  have injective : Function.Injective ObjID.item := by
    intro first second same
    exact congrArg ObjID.databaseId same
  calc
    ∑ id ∈ (world.cells zone sector).ids.toFinset, world.pieces itemId id
      = ∑ id ∈ ((range world.nextFieldItemId).map ⟨ObjID.item, injective⟩) ∩
          (world.cells zone sector).ids.toFinset, world.pieces itemId id := by
        refine (sum_subset inter_subset_right fun id member absent => ?_).symm
        by_contra some_
        rcases item_of_pieces numbering.mapped.filed some_ with ⟨number, core, rfl, found⟩
        refine absent (mem_inter.mpr ⟨?_, member⟩)
        exact mem_map.mpr ⟨number, mem_range.mpr (numbering.lt found), rfl⟩
    _ = ∑ id ∈ (range world.nextFieldItemId).map ⟨ObjID.item, injective⟩,
          if id ∈ (world.cells zone sector).ids.toFinset then world.pieces itemId id else 0 :=
        (sum_ite_mem ..).symm
    _ = ∑ number ∈ range world.nextFieldItemId,
          if ObjID.item number ∈ world.cells zone sector then
            world.pieces itemId (ObjID.item number) else 0 := by
        rw [sum_map]
        refine sum_congr rfl fun number _ => ?_
        simp only [Function.Embedding.coeFn_mk, List.mem_toFinset, Cell.mem_ids_iff]

/-- An item that is not touched counts as before. -/
theorem share_aloof (aloof : Aloof id before after) :
    after.share zone itemId id = before.share zone itemId id := by
  refine sum_congr rfl fun sector _ => ?_
  rw [pieces_congr aloof.core]
  exact if_congr (aloof.cells zone sector) rfl rfl

theorem share_of_pieces (none_ : world.pieces itemId id = 0) : world.share zone itemId id = 0 := by
  refine sum_eq_zero fun sector _ => ?_
  rw [none_, ite_self]

theorem share_missing (missing : world.coreOf id = none) : world.share zone itemId id = 0 :=
  share_of_pieces (by rw [pieces_eq_core, missing, Option.map_none, Option.getD_none])

/-- An item counts in its own zone. -/
theorem share_lies {core : Core} (found : world.coreOf (ObjID.item number) = some core)
    (lies : Lies zone (ObjID.item number) core.transform world)
    (placed : Sector.isValidSector zone core.transform.sector = true) :
    world.share zone itemId (ObjID.item number) = core.pieces itemId := by
  rw [share, sum_eq_single core.transform.sector]
  · rw [if_pos ((lies.tracked _ _).mpr ⟨rfl, rfl, placed⟩), pieces_eq_core, found]
    rfl
  · intro sector _ different
    exact if_neg fun member => different ((lies.tracked _ _).mp member).2.1
  · intro outside
    exact absurd (mem_zoneSectors_iff.mpr placed) outside

/-! ## One item comes or goes -/

/-- What lies on the ground, when no item is touched. -/
theorem lying_aloof (numbering : Numbering before) (numberingAfter : Numbering after)
    (counted : after.nextFieldItemId = before.nextFieldItemId)
    (aloof : ∀ number, Aloof (ObjID.item number) before after) :
    after.lying zone itemId = before.lying zone itemId := by
  rw [lying_eq numbering, lying_eq numberingAfter, counted]
  exact sum_congr rfl fun number _ => share_aloof (aloof number)

/-- A new item adds its pieces. -/
theorem Dropped.lying {x y : Int} {droppedId : ItemTableId} {count : UInt16}
    (dropped : Dropped zone x y droppedId count before after) (numbering : Numbering before)
    (numberingAfter : Numbering after) (inZone : getZoneIdByWorld x y = zone) :
    after.lying zone itemId =
      before.lying zone itemId + if droppedId = itemId then count.toNat else 0 := by
  rcases dropped.lies with ⟨transform, found, lies, placed⟩
  rw [lying_eq numbering, lying_eq numberingAfter, dropped.numbered, sum_range_succ,
    share_lies found lies (placed inZone)]
  have others :
      ∑ number ∈ range before.nextFieldItemId, after.share zone itemId (ObjID.item number) =
        ∑ number ∈ range before.nextFieldItemId, before.share zone itemId (ObjID.item number) :=
    sum_congr rfl fun number earlier =>
      share_aloof (dropped.aloof number (mem_range.mp earlier).ne)
  rw [others]
  rfl

/-- An item that goes takes its pieces along. -/
theorem lying_removed (numbering : Numbering before) (numberingAfter : Numbering after)
    (counted : after.nextFieldItemId = before.nextFieldItemId)
    (numbered : number < before.nextFieldItemId)
    (gone : after.coreOf (ObjID.item number) = none)
    (aloof : ∀ other, other ≠ number → Aloof (ObjID.item other) before after) :
    after.lying zone itemId + before.share zone itemId (ObjID.item number) =
      before.lying zone itemId := by
  have member : number ∈ range before.nextFieldItemId := mem_range.mpr numbered
  rw [lying_eq numbering, lying_eq numberingAfter, counted, ← add_sum_erase _ _ member,
    ← add_sum_erase _ _ member, share_missing gone]
  have others : ∑ other ∈ (range before.nextFieldItemId).erase number,
        after.share zone itemId (ObjID.item other) =
      ∑ other ∈ (range before.nextFieldItemId).erase number,
        before.share zone itemId (ObjID.item other) :=
    sum_congr rfl fun other among => share_aloof (aloof other (ne_of_mem_erase among))
  rw [others]
  omega

/-! ## Inventories -/

variable {members : Finset Nat} {client : Subject} {user : User} {inventory : Inventory}
  {loss gain : Nat}

theorem carried_of_getUser (found : world.getUser (ObjID.user session) = some (client, user)) :
    world.carried session itemId = user.inventory.slots.quantity itemId := by
  rw [carried, found]

/-- The core of a user has its slots. -/
theorem slots_of_core (core : after.coreOf id = before.coreOf id)
    (found : before.getUser id = some (client, user)) :
    ∃ other changed, after.getUser id = some (other, changed) ∧
      changed.inventory.slots = user.inventory.slots := by
  rw [getUser_eq_some] at found
  have present : after.coreOf id = some client.core := by
    rw [core, coreOf, found.1, Option.map_some]
  rcases Option.map_eq_some_iff.mp present with ⟨other, registered, same⟩
  have isUser : client.core = .user client.transform user.inventory.playerId user.inventory.slots
      user.stat.hp user.stat.dead := by
    rw [Subject.core, found.2]
  rw [isUser, Subject.core] at same
  split at same
  · next changed bodyOf =>
    refine ⟨other, changed, getUser_eq_some.mpr ⟨registered, bodyOf⟩, ?_⟩
    injection same
  · contradiction
  · contradiction

theorem carried_congr (core : after.coreOf (ObjID.user session) = before.coreOf (ObjID.user session)) :
    after.carried session itemId = before.carried session itemId := by
  cases found : before.getUser (ObjID.user session) with
  | some entry =>
    rcases entry with ⟨client, user⟩
    rcases slots_of_core core found with ⟨other, changed, present, same⟩
    rw [carried_of_getUser found, carried_of_getUser present, same]
  | none =>
    cases present : after.getUser (ObjID.user session) with
    | none => rw [carried, carried, found, present]
    | some entry =>
      rcases entry with ⟨client, user⟩
      rcases slots_of_core core.symm present with ⟨other, changed, registered, _⟩
      rw [found] at registered
      contradiction

theorem total_plain (plain : Plain before after) :
    after.total members zone itemId = before.total members zone itemId := by
  rw [total, total, lying_congr (fun id => pieces_congr (plain.core id)) plain.cells]
  congr 1
  exact sum_congr rfl fun session _ => carried_congr (plain.core _)

/-- What one user and the zone exchange is an exchange of all. -/
theorem total_exchange (member : session ∈ members)
    (others : ∀ other, other ≠ session → after.carried other itemId = before.carried other itemId)
    (balance : after.carried session itemId + after.lying zone itemId + loss =
      before.carried session itemId + before.lying zone itemId + gain) :
    after.total members zone itemId + loss = before.total members zone itemId + gain := by
  have rest : ∑ other ∈ members.erase session, after.carried other itemId =
      ∑ other ∈ members.erase session, before.carried other itemId :=
    sum_congr rfl fun other among => others other (ne_of_mem_erase among)
  rw [total, total, ← add_sum_erase _ _ member, ← add_sum_erase _ _ member, rest]
  omega

/-- What a user carries after its inventory was stored. -/
theorem carried_setInventory (found : world.getUser (ObjID.user session) = some (client, user))
    (inventory : Inventory) :
    (world.setInventory (ObjID.user session) inventory).carried session itemId =
      inventory.slots.quantity itemId := by
  have stored : (world.setInventory (ObjID.user session) inventory).getUser (ObjID.user session) =
      some ({ client with body := .user { user with inventory := { inventory with issued := [] } } },
        { user with inventory := { inventory with issued := [] } }) := by
    rw [getUser_eq_some] at found ⊢
    simp [setInventory, modifyUser, modify, found.1, found.2]
  rw [carried_of_getUser stored]

theorem carried_setInventory_of_ne {other : Nat} (different : other ≠ session)
    (inventory : Inventory) :
    (world.setInventory (ObjID.user session) inventory).carried other itemId =
      world.carried other itemId :=
  carried_congr ((setInventory_apart (ObjID.user session) inventory).core _
    fun same => different (ObjID.user_inj.mp same))

theorem lying_setInventory (inventory : Inventory) :
    (world.setInventory id inventory).lying zone itemId = world.lying zone itemId := by
  refine lying_congr (fun other => ?_) rfl
  by_cases same : other = id
  · subst same
    simp only [pieces, setInventory, modifyUser, modify, Function.update_self]
    cases world.objects other with
    | none => rfl
    | some subject =>
      rcases subject with ⟨name, transform, facing, body⟩
      cases body <;> rfl
  · simp only [pieces, setInventory, modifyUser, modify, Function.update_of_ne same]

/-- An operation on the own inventory. -/
theorem total_setInventory (member : session ∈ members)
    (found : world.getUser (ObjID.user session) = some (client, user))
    (quantity : inventory.slots.quantity itemId + loss =
      user.inventory.slots.quantity itemId + gain)
    (later : Plain (world.setInventory (ObjID.user session) inventory) after) :
    after.total members zone itemId + loss = world.total members zone itemId + gain := by
  rw [total_plain later]
  refine total_exchange member (fun other different => carried_setInventory_of_ne different _) ?_
  rw [carried_setInventory found, carried_of_getUser found, lying_setInventory]
  omega

end World

end Mmorpg
