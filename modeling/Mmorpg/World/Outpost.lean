import Mmorpg.World.Boot

/-!
# One monster apart from the others

A start of the server that puts one monster of the first zone into the corner
of the world and all others far away.  Near the corner this world can be
computed, whatever the number of monsters is.
-/

namespace Mmorpg

open ZoneLayout

namespace World

/-- The chosen monster gets the steady tile of its zone, the others a far one. -/
def outpostDraw (chosen index : Nat) : Int × Int :=
  if index = chosen then steadyDraw index
  else ((index % 16 % 4 * 500 + 315 : Nat), (index % 16 / 4 * 500 + 315 : Nat))

theorem outpostDraw_valid (chosen : Nat) : ValidDraws initCollisionTile (outpostDraw chosen) := by
  intro index
  rw [outpostDraw]
  split
  · exact steadyDraw_valid index
  · have far : ∀ zone < 16,
        getZoneIdByWorld ((zone % 4 * 500 + 315 : Nat) : Int) ((zone / 4 * 500 + 315 : Nat) : Int) =
            zone ∧
          isCollision initCollisionTile ((zone % 4 * 500 + 315 : Nat) : Int) ((zone / 4 * 500 + 315 : Nat) : Int) =
            false := by decide
    exact far (index % 16) (Nat.mod_lt index (by decide))

variable (count chosen : Nat)

/-- The sectors around the corner. -/
def isCorner (zone : Nat) (sector : SectorCoord) : Bool :=
  zone = 0 ∧ sector.x < 30 ∧ sector.y < 30

/-- The world at the start, computed near the corner. -/
def outpost : World where
  objects id :=
    if id.category = .eUser then none
    else if id = ObjID.monster (monsterIdStart + chosen) then
      some (bootMonster (outpostDraw chosen) chosen)
    else (boot count (outpostDraw chosen)).objects id
  cells zone sector :=
    if isCorner zone sector = true then
      if sector = ⟨0, 0⟩ then Cell.empty.insert (ObjID.monster (monsterIdStart + chosen))
      else Cell.empty
    else (boot count (outpostDraw chosen)).cells zone sector
  objectZones id :=
    if id.category = .eUser then none
    else if id = ObjID.monster (monsterIdStart + chosen) then some 0
    else (boot count (outpostDraw chosen)).objectZones id
  sessions := fun _ => none
  nextObjectId := 1
  nextFieldItemId := 1
  queues := fun _ => []
  timers := []
  dbRequests := []
  outbox := (boot count (outpostDraw chosen)).outbox

variable {count chosen}

theorem cell_ext {first second : Cell} (same : first.ids = second.ids) : first = second := by
  cases first
  cases second
  congr

theorem cell_eq_empty {cell : Cell} (none : ∀ id, id ∉ cell) : cell = Cell.empty :=
  cell_ext (List.eq_nil_iff_forall_not_mem.mpr none)

theorem cell_eq_singleton {cell : Cell} {id : ObjID} (only : ∀ other, other ∈ cell ↔ other = id) :
    cell = Cell.empty.insert id := by
  apply cell_ext
  have perm : cell.ids.Perm [id] := by
    rw [List.perm_ext_iff_of_nodup cell.nodup (List.nodup_singleton id)]
    intro other
    rw [Cell.mem_ids_iff, only, List.mem_singleton]
  exact List.perm_singleton.mp perm

theorem world_ext {first second : World} (objects : first.objects = second.objects)
    (cells : first.cells = second.cells) (objectZones : first.objectZones = second.objectZones)
    (sessions : first.sessions = second.sessions)
    (nextObjectId : first.nextObjectId = second.nextObjectId)
    (nextFieldItemId : first.nextFieldItemId = second.nextFieldItemId)
    (queues : first.queues = second.queues) (timers : first.timers = second.timers)
    (dbRequests : first.dbRequests = second.dbRequests) (outbox : first.outbox = second.outbox) :
    first = second := by
  cases first
  cases second
  congr

/-- The start of the server near the corner, for any number of monsters. -/
theorem boot_eq_outpost (below : chosen < count) (first : chosen % 16 = 0) :
    boot count (outpostDraw chosen) = outpost count chosen := by
  have booted := boot_booted count (outpostDraw_valid chosen)
  have listed : chosen ∈ bootOrder count := mem_bootOrder_iff.mpr below
  have zones : zoneCount.toNat = 16 := by decide
  have noUsers : ∀ id : ObjID, id.category = .eUser →
      (boot count (outpostDraw chosen)).objects id = none := by
    intro id isUser
    by_contra registered
    rcases booted.only id registered with ⟨index, _, rfl⟩
    contradiction
  have near : outpostDraw chosen chosen = (9, 9) := by
    rw [outpostDraw, if_pos rfl, steadyDraw, zones, first]
    rfl
  have far : ∀ index, index ≠ chosen → index % 16 = 0 → outpostDraw chosen index = (315, 315) := by
    intro index other home
    rw [outpostDraw, if_neg other, home]
    rfl
  have corner : ∀ sector : SectorCoord, isCorner 0 sector = true →
      sector ≠ Sector.getSectorCoord 315 315 := by
    rintro sector close rfl
    exact absurd close (by decide)
  have cells : ∀ zone sector, isCorner zone sector = true →
      ∀ id, id ∈ (boot count (outpostDraw chosen)).cells zone sector ↔
        id = ObjID.monster (monsterIdStart + chosen) ∧ sector = ⟨0, 0⟩ := by
    intro zone sector close id
    obtain rfl : zone = 0 := (of_decide_eq_true close).1
    rw [booted.cells]
    constructor
    · rintro ⟨index, _, rfl, home, rfl⟩
      by_cases same : index = chosen
      · subst same
        rw [near]
        exact ⟨rfl, by decide⟩
      · rw [zones] at home
        rw [far index same home.symm] at close
        exact absurd rfl (corner _ close)
    · rintro ⟨rfl, rfl⟩
      refine ⟨chosen, listed, rfl, ?_, ?_⟩
      · rw [zones, first]
      · rw [near]
        decide
  apply world_ext
  · funext id
    rw [outpost]
    dsimp only
    split
    · next isUser => exact noUsers id isUser
    · split
      · next same => rw [same, booted.monsters chosen listed]
      · rfl
  · funext zone sector
    rw [outpost]
    dsimp only
    split
    · next close =>
      split
      · next origin =>
        apply cell_eq_singleton
        intro other
        rw [cells zone sector close]
        exact and_iff_left origin
      · next elsewhere =>
        apply cell_eq_empty
        intro id member
        exact elsewhere ((cells zone sector close id).mp member).2
    · rfl
  · funext id
    rw [outpost]
    dsimp only
    split
    · next isUser => exact booted.unmapped id (noUsers id isUser)
    · split
      · next same => rw [same, booted.zones chosen listed, zones, first]
      · rfl
  · exact booted.sessions
  · exact booted.nextObjectId
  · exact booted.nextFieldItemId
  · exact booted.queues
  · exact booted.timers
  · exact booted.dbRequests
  · rfl

end World

end Mmorpg
