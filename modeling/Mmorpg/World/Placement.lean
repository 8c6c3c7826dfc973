import Mmorpg.World.Standing

/-!
# The two grid operations

What `UpdatePosition` and `RemoveObject` do to every component of the world.
`Tracked` is the local fact they rely on: the grid has the object exactly in
the cell its transform names.
-/

namespace Mmorpg

open ZoneLayout

variable {grid : CollisionGrid}

/-- The object after its position was set inside `zone`. -/
def Subject.placedAt (zone : Nat) (x y : Int) (subject : Subject) : Subject :=
  { subject with
    transform :=
      { subject.transform with
        sector := Sector.getSectorCoord x y, x := x, y := y, zoneId := zone } }

/-- The subject is in no cell. -/
def Subject.unplaced (subject : Subject) : Subject :=
  { subject with transform := { subject.transform with sector := {} } }

namespace World

variable {zone : Nat} {id : ObjID} {object : Subject} {x y : Int} {before after : World}

/-- The cells hold `id` in the sector of its transform, and nowhere when that
is no sector of the zone. -/
def Tracked (zone : Nat) (id : ObjID) (transform : Transform) (world : World) : Prop :=
  ∀ otherZone sector, id ∈ world.cells otherZone sector ↔
    otherZone = zone ∧ sector = transform.sector ∧ Sector.isValidSector zone sector = true

/-- Who is in a cell after one cell was changed. -/
theorem mem_modifyCell_iff {world : World} {otherZone : Nat} {sector otherSector : SectorCoord}
    {change : Cell → Cell} {other : ObjID} :
    other ∈ (world.modifyCell zone sector change).cells otherZone otherSector ↔
      if otherZone = zone ∧ otherSector = sector then
        other ∈ change (world.cells otherZone otherSector)
      else other ∈ world.cells otherZone otherSector := by
  simp only [modifyCell]
  split <;> rfl

/-- The effect of a successful `UpdatePosition`. -/
structure Settled (zone : Nat) (id : ObjID) (object : Subject) (x y : Int) (before after : World) :
    Prop where
  objects : after.objects = Function.update before.objects id (some (object.placedAt zone x y))
  others : ∀ other, other ≠ id → ∀ otherZone sector,
    other ∈ after.cells otherZone sector ↔ other ∈ before.cells otherZone sector
  own : Tracked zone id object.transform before → ∀ otherZone sector,
    id ∈ after.cells otherZone sector ↔ otherZone = zone ∧ sector = Sector.getSectorCoord x y
  objectZones : after.objectZones =
    if object.transform.zoneId = zone then before.objectZones
    else Function.update before.objectZones id (some zone)
  sessions : after.sessions =
    if id.category = .eUser then (before.setRoutingZoneId id.databaseId zone).sessions
    else before.sessions
  queues : after.queues = before.queues
  timers : after.timers = before.timers
  outbox : after.outbox = before.outbox
  dbRequests : after.dbRequests = before.dbRequests
  nextObjectId : after.nextObjectId = before.nextObjectId
  nextFieldItemId : after.nextFieldItemId = before.nextFieldItemId

/-- Moving one object leaves the others in their cells. -/
theorem mem_moved_others {other : ObjID} (different : other ≠ id) (transform : Transform)
    (next : SectorCoord) (world : World) (otherZone : Nat) (sector : SectorCoord) :
    (other ∈ (if transform.sector ≠ next then
        (if Sector.isValidSector zone transform.sector then
          world.modifyCell zone transform.sector (Cell.erase id)
        else world).modifyCell zone next (Cell.insert id)
      else world).cells otherZone sector) ↔ other ∈ world.cells otherZone sector := by
  split
  · rw [mem_modifyCell_iff]
    simp only [Cell.mem_insert_iff, different, false_or, ite_self]
    split
    · rw [mem_modifyCell_iff]
      simp only [Cell.mem_erase_iff, ne_eq, different, not_false_eq_true, true_and, ite_self]
    · rfl
  · rfl

/-- The object that moved is in its new cell and in no other. -/
theorem mem_moved_own {transform : Transform} {next : SectorCoord} {world : World}
    (tracked : Tracked zone id transform world) (valid : Sector.isValidSector zone next = true)
    (otherZone : Nat) (sector : SectorCoord) :
    (id ∈ (if transform.sector ≠ next then
        (if Sector.isValidSector zone transform.sector then
          world.modifyCell zone transform.sector (Cell.erase id)
        else world).modifyCell zone next (Cell.insert id)
      else world).cells otherZone sector) ↔ otherZone = zone ∧ sector = next := by
  split
  · next moved =>
    rw [mem_modifyCell_iff]
    split
    · next here => simp [here]
    · next elsewhere =>
      simp only [elsewhere, iff_false]
      split
      · rw [mem_modifyCell_iff]
        split
        · simp
        · next notOld =>
          rw [tracked otherZone sector]
          exact fun held => notOld ⟨held.1, held.2.1⟩
      · next invalid =>
        rw [tracked otherZone sector]
        rintro ⟨_, rfl, old⟩
        exact invalid old
  · next same =>
    rw [not_not] at same
    rw [tracked otherZone sector, same]
    constructor
    · exact fun held => ⟨held.1, held.2.1⟩
    · rintro ⟨rfl, rfl⟩
      exact ⟨rfl, rfl, valid⟩

/-- Inside its zone `UpdatePosition` settles the object. -/
theorem updatePosition_settled (valid : isValidZoneId zone = true)
    (found : before.objects id = some object) (inZone : getZoneIdByWorld x y = zone) :
    Settled zone id object x y before (before.updatePosition zone id x y) := by
  have validSector := isValidSector_of_zone valid inZone
  have placed : (before.updatePosition zone id x y).objects =
      Function.update before.objects id (some (object.placedAt zone x y)) := by
    simp only [updatePosition, found, updateObjectSectorAndPosition, validSector, if_true, inZone]
    by_cases same : object.transform.zoneId = zone
    · simp only [ne_eq, same, not_true_eq_false, if_false, apply_ite World.objects, setRoutingZoneId,
        modifySession, modifyTransform, World.modify, modifyCell, ite_self, found, Option.map_some,
        Subject.placedAt]
    · simp only [ne_eq, same, not_false_eq_true, if_true, apply_ite World.objects, setRoutingZoneId,
        modifySession, updateObjectZone, valid, modifyTransform, World.modify, modifyCell, ite_self,
        found, Option.map_some, Function.update_self, Function.update_idem, Subject.placedAt]
  have cells : (before.updatePosition zone id x y).cells =
      (if object.transform.sector ≠ Sector.getSectorCoord x y then
        (if Sector.isValidSector zone object.transform.sector then
          before.modifyCell zone object.transform.sector (Cell.erase id)
        else before).modifyCell zone (Sector.getSectorCoord x y) (Cell.insert id)
      else before).cells := by
    simp only [updatePosition, found, updateObjectSectorAndPosition, validSector, if_true, inZone]
    by_cases same : object.transform.zoneId = zone
    · simp only [ne_eq, same, not_true_eq_false, if_false, apply_ite World.cells, setRoutingZoneId,
        modifySession, modifyTransform, World.modify, ite_self]
    · simp only [ne_eq, same, not_false_eq_true, if_true, apply_ite World.cells, setRoutingZoneId,
        modifySession, updateObjectZone, valid, modifyTransform, World.modify, ite_self]
  constructor
  case objects => exact placed
  case others =>
    intro other different otherZone sector
    rw [cells]
    exact mem_moved_others different _ _ _ _ _
  case own =>
    intro tracked otherZone sector
    rw [cells]
    exact mem_moved_own tracked validSector _ _
  case objectZones =>
    simp only [updatePosition, found, updateObjectSectorAndPosition, validSector, if_true, inZone]
    by_cases same : object.transform.zoneId = zone
    · simp only [ne_eq, same, not_true_eq_false, if_false, apply_ite World.objectZones,
        setRoutingZoneId, modifySession, modifyTransform, World.modify, modifyCell, ite_self, if_true]
    · simp only [ne_eq, same, not_false_eq_true, if_true, if_false, apply_ite World.objectZones,
        setRoutingZoneId, modifySession, updateObjectZone, valid, modifyTransform, World.modify,
        modifyCell, ite_self]
  all_goals
    simp only [updatePosition, found, updateObjectSectorAndPosition, validSector, if_true, inZone]
    by_cases same : object.transform.zoneId = zone
    · simp only [ne_eq, same, not_true_eq_false, if_false, apply_ite World.sessions,
        apply_ite World.queues, apply_ite World.timers, apply_ite World.outbox,
        apply_ite World.dbRequests, apply_ite World.nextObjectId, apply_ite World.nextFieldItemId,
        setRoutingZoneId, modifySession, modifyTransform, World.modify, modifyCell, ite_self]
    · simp only [ne_eq, same, not_false_eq_true, if_true, apply_ite World.sessions,
        apply_ite World.queues, apply_ite World.timers, apply_ite World.outbox,
        apply_ite World.dbRequests, apply_ite World.nextObjectId, apply_ite World.nextFieldItemId,
        setRoutingZoneId, modifySession, updateObjectZone, valid, modifyTransform, World.modify,
        modifyCell, ite_self]

/-- Outside the zone `UpdatePosition` does nothing. -/
theorem updatePosition_outside (valid : isValidZoneId zone = true)
    (outside : getZoneIdByWorld x y ≠ zone) : before.updatePosition zone id x y = before := by
  have invalid : Sector.isValidSector zone (Sector.getSectorCoord x y) ≠ true :=
    fun validSector => outside ((isValidSector_getSectorCoord valid x y).mp validSector)
  unfold updatePosition
  split
  · rfl
  · simp [updateObjectSectorAndPosition, invalid]

theorem updatePosition_missing (missing : before.objects id = none) :
    before.updatePosition zone id x y = before := by
  simp [updatePosition, missing]

/-- The effect of `RemoveObject`. -/
structure Removed (zone : Nat) (id : ObjID) (transform : Transform) (before after : World) :
    Prop where
  objects : ∀ other, after.objects other =
    if other = id ∧ Sector.isValidSector zone transform.sector = true then
      (before.objects other).map Subject.unplaced
    else before.objects other
  others : ∀ other, other ≠ id → ∀ otherZone sector,
    other ∈ after.cells otherZone sector ↔ other ∈ before.cells otherZone sector
  own : Tracked zone id transform before → ∀ otherZone sector,
    id ∉ after.cells otherZone sector
  objectZones : after.objectZones = before.objectZones
  sessions : after.sessions = before.sessions
  queues : after.queues = before.queues
  timers : after.timers = before.timers
  outbox : after.outbox = before.outbox
  dbRequests : after.dbRequests = before.dbRequests
  nextObjectId : after.nextObjectId = before.nextObjectId
  nextFieldItemId : after.nextFieldItemId = before.nextFieldItemId

theorem removeObject_removed (zone : Nat) (id : ObjID) (transform : Transform) (world : World) :
    Removed zone id transform world (world.removeObject zone id transform) := by
  unfold removeObject
  by_cases validSector : Sector.isValidSector zone transform.sector = true
  · rw [if_pos validSector]
    constructor
    case objects =>
      intro other
      simp only [modifyTransform, World.modify, modifyCell, Function.update_apply, validSector,
        and_true]
      split
      · next same =>
        subst same
        rfl
      · rfl
    case others =>
      intro other different otherZone sector
      have unchanged : other ∈ (world.modifyCell zone transform.sector (Cell.erase id)).cells
          otherZone sector ↔ other ∈ world.cells otherZone sector := by
        rw [mem_modifyCell_iff]
        simp only [Cell.mem_erase_iff, ne_eq, different, not_false_eq_true, true_and, ite_self]
      exact unchanged
    case own =>
      intro tracked otherZone sector member
      have old : id ∈ (world.modifyCell zone transform.sector (Cell.erase id)).cells otherZone
          sector := member
      rw [mem_modifyCell_iff] at old
      split at old
      · exact absurd rfl (Cell.mem_erase_iff.mp old).1
      · next elsewhere =>
        have held := (tracked otherZone sector).mp old
        exact elsewhere ⟨held.1, held.2.1⟩
    all_goals rfl
  · rw [if_neg validSector]
    constructor
    case objects => exact fun other => by simp [validSector]
    case others => exact fun _ _ _ _ => Iff.rfl
    case own =>
      intro tracked otherZone sector member
      rcases (tracked otherZone sector).mp member with ⟨_, rfl, valid⟩
      exact validSector valid
    all_goals rfl

end World

end Mmorpg
