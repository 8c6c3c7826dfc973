import Mmorpg.World.World

/-!
# The sector grid of one zone

The mutating half of `Sector.cpp` and the neighbour snapshots.  `zone` is the
zone whose grid the calling thread's `GSector` points to.
-/

namespace Mmorpg

/-- The random and scheduling decisions a task can depend on: iteration orders
of hash containers, the clock, and every accepted random draw.  A draw loop
repeats until the tile of the grid is free, so only free tiles are drawn. -/
structure Choice (grid : CollisionGrid) where
  hash : HashOrder
  slots : SlotOrder
  now : UInt32
  direction : Fin 4
  zoneDraw : Nat → Int × Int
  zoneDraw_zone : ∀ zone, ZoneLayout.isValidZoneId zone = true →
    ZoneLayout.getZoneIdByWorld (zoneDraw zone).1 (zoneDraw zone).2 = zone
  zoneDraw_free : ∀ zone, ZoneLayout.isValidZoneId zone = true →
    isCollision grid (zoneDraw zone).1 (zoneDraw zone).2 = false
  worldDraw : Int × Int
  worldDraw_valid : ZoneLayout.isValidWorldPosition worldDraw.1 worldDraw.2 = true
  worldDraw_free : isCollision grid worldDraw.1 worldDraw.2 = false
  findPath : Int × Int → Int × Int → List (Int × Int)
  dropPoint : ObjID → Nat
  dropDraw : ObjID → Nat

/-- Always the same free tile of each zone. -/
def Choice.steady : Choice initCollisionTile where
  hash := .stored
  slots := .ascending
  now := 100000
  direction := 0
  zoneDraw zone := (zone % 4 * 500 + 9, zone / 4 * 500 + 9)
  zoneDraw_zone zone valid := by
    rw [ZoneLayout.isValidZoneId_iff] at valid
    revert zone
    decide
  zoneDraw_free zone valid := by
    rw [ZoneLayout.isValidZoneId_iff] at valid
    revert zone
    decide
  worldDraw := (9, 9)
  worldDraw_valid := by decide
  worldDraw_free := by decide
  findPath _ _ := []
  dropPoint _ := 0
  dropDraw _ := 0

namespace World

open Sector

/-- A change of one cell. -/
def modifyCell (zone : Nat) (sector : SectorCoord) (change : Cell → Cell) (world : World) :
    World :=
  { world with
    cells := fun otherZone otherSector =>
      if otherZone = zone ∧ otherSector = sector then change (world.cells otherZone otherSector)
      else world.cells otherZone otherSector }

/-- `UpdateObjectSectorAndPosition`; `none` is the result `false`, which
changes nothing. -/
def updateObjectSectorAndPosition (zone : Nat) (id : ObjID) (transform : Transform)
    (worldX worldY : Int) (world : World) : Option World :=
  let nextSector := getSectorCoord worldX worldY
  if isValidSector zone nextSector then
    let moved :=
      if transform.sector ≠ nextSector then
        let left :=
          if isValidSector zone transform.sector then
            world.modifyCell zone transform.sector (Cell.erase id)
          else world
        left.modifyCell zone nextSector (Cell.insert id)
      else world
    some (moved.modifyTransform id fun current =>
      { current with sector := nextSector, x := worldX, y := worldY })
  else none

/-- `Sector::RemoveObject`. -/
def removeObject (zone : Nat) (id : ObjID) (transform : Transform) (world : World) : World :=
  if isValidSector zone transform.sector then
    (world.modifyCell zone transform.sector (Cell.erase id)).modifyTransform id fun current =>
      { current with sector := {} }
  else world

/-! ## Neighbour snapshots -/

/-- The coordinates next to `center`, cut off at the border of the zone. -/
def around (offset size center : Int) : List Int :=
  [center - 1, center, center + 1].filter fun value => offset ≤ value ∧ value ≤ offset + size - 1

/-- `ForEachNeighborObjID`: the identifiers in the three by three sectors
around a sector. -/
def neighborIds (hash : HashOrder) (zone : Nat) (sector : SectorCoord) (world : World) :
    List ObjID :=
  if isValidSector zone sector then
    (around (offsetY zone) ZoneLayout.sectorsPerZoneY sector.y).flatMap fun y =>
      (around (offsetX zone) ZoneLayout.sectorsPerZoneX sector.x).flatMap fun x =>
        hash.order (world.cells zone ⟨x, y⟩)
  else []

/-- `ForEachNeighborObject`: the registered objects among them. -/
def neighborObjects (hash : HashOrder) (zone : Nat) (sector : SectorCoord) (world : World) :
    List (ObjID × Subject) :=
  (world.neighborIds hash zone sector).filterMap fun id =>
    (world.objects id).map fun subject => (id, subject)

/-- The filter every notification loop applies to the snapshot around
`target`: users in the game that can see it. -/
def viewers (hash : HashOrder) (zone : Nat) (target : Subject) (world : World) : List ObjID :=
  ((world.neighborObjects hash zone target.transform.sector).filter fun entry =>
    entry.1.category = .eUser ∧ world.isIngame entry.1 ∧
      SubjectHelper.canSee entry.2 target).map Prod.fst

/-- The cells on both sides, inside the zone. -/
theorem mem_around_iff {offset size center value : Int} :
    value ∈ around offset size center ↔
      center - 1 ≤ value ∧ value ≤ center + 1 ∧ offset ≤ value ∧ value < offset + size := by
  simp only [around, List.mem_filter, List.mem_cons, List.not_mem_nil, or_false,
    decide_eq_true_eq]
  omega

theorem mem_neighborIds_iff {hash : HashOrder} {zone : Nat} {sector : SectorCoord} {world : World}
    {id : ObjID} :
    id ∈ world.neighborIds hash zone sector ↔
      isValidSector zone sector = true ∧ ∃ other : SectorCoord,
        isValidSector zone other = true ∧ sector.x - 1 ≤ other.x ∧ other.x ≤ sector.x + 1 ∧
          sector.y - 1 ≤ other.y ∧ other.y ≤ sector.y + 1 ∧ id ∈ world.cells zone other := by
  unfold neighborIds
  by_cases valid : isValidSector zone sector = true
  · rw [if_pos valid]
    simp only [List.mem_flatMap, mem_around_iff, hash.mem_order_iff]
    constructor
    · rintro ⟨y, vertical, x, horizontal, member⟩
      refine ⟨valid, ⟨x, y⟩, ?_, horizontal.1, horizontal.2.1, vertical.1, vertical.2.1, member⟩
      exact decide_eq_true
        ⟨horizontal.2.2.1, horizontal.2.2.2, vertical.2.2.1, vertical.2.2.2⟩
    · rintro ⟨_, other, inZone, left, right, above, below, member⟩
      rcases of_decide_eq_true inZone with ⟨low, high, first, last⟩
      exact ⟨other.y, ⟨above, below, first, last⟩, other.x, ⟨left, right, low, high⟩, member⟩
  · rw [if_neg valid]
    simp [valid]

theorem mem_neighborObjects_iff {hash : HashOrder} {zone : Nat} {sector : SectorCoord}
    {world : World} {id : ObjID} {subject : Subject} :
    (id, subject) ∈ world.neighborObjects hash zone sector ↔
      id ∈ world.neighborIds hash zone sector ∧ world.objects id = some subject := by
  simp only [neighborObjects, List.mem_filterMap, Option.map_eq_some_iff, Prod.mk.injEq]
  constructor
  · rintro ⟨other, member, found, registered, rfl, rfl⟩
    exact ⟨member, registered⟩
  · rintro ⟨member, registered⟩
    exact ⟨id, member, subject, registered, rfl, rfl⟩

/-- The users in the game who see the target. -/
theorem mem_viewers_iff {hash : HashOrder} {zone : Nat} {target : Subject} {world : World}
    {id : ObjID} :
    id ∈ world.viewers hash zone target ↔
      id ∈ world.neighborIds hash zone target.transform.sector ∧ id.category = .eUser ∧
        world.isIngame id = true ∧
          ∃ subject, world.objects id = some subject ∧ SubjectHelper.canSee subject target = true := by
  simp only [viewers, List.mem_map, List.mem_filter, decide_eq_true_eq]
  constructor
  · rintro ⟨⟨other, subject⟩, ⟨member, user, ingame, sees⟩, rfl⟩
    rw [mem_neighborObjects_iff] at member
    exact ⟨member.1, user, ingame, subject, member.2, sees⟩
  · rintro ⟨member, user, ingame, subject, registered, sees⟩
    exact ⟨(id, subject), ⟨mem_neighborObjects_iff.mpr ⟨member, registered⟩, user, ingame, sees⟩,
      rfl⟩

end World

end Mmorpg
