import Mathlib.Data.Int.Order.Basic

/-!
# World, sectors and zones

`ZoneLayout.h` and the coordinate half of `Sector.cpp`: the world of 2000 by
2000 tiles is cut into sectors of ten tiles, and sixteen zones of fifty by
fifty sectors share the sectors out.  The 16-bit coordinates are integers;
everything the server stores lies between minus one and the world size.
-/

namespace Mmorpg

/-- `W_WIDTH`, tiles from left to right. -/
def wWidth : Int := 2000

/-- `W_HEIGHT`, tiles from top to bottom. -/
def wHeight : Int := 2000

/-- `SECTOR_RANGE`, tiles along a sector's side. -/
def sectorRange : Int := 10

/-- `VIEW_RANGE`. -/
def viewRange : Int := 5

/-- `WAKE_RANGE`, within which aggressive monsters notice a user. -/
def wakeRange : Int := 3

/-- `ZONE_BOUNDARY_MARGIN`, which aggressive monsters keep to the border. -/
def zoneBoundaryMargin : Int := 3

/-- `InvalidZoneId`; a `ZoneId` is a plain number here. -/
def invalidZoneId : Nat := 65535

/-- The column and row of a zone; outside of the world both are -1. -/
structure ZoneCoord where
  x : Int := -1
  y : Int := -1
  deriving DecidableEq, Repr

/-- Global sector coordinates; minus one stands for "not assigned". -/
structure SectorCoord where
  x : Int := -1
  y : Int := -1
  deriving DecidableEq, Repr

namespace ZoneLayout

/-- Sectors from left to right. -/
def sectorCountX : Int := wWidth / sectorRange

/-- Sectors from top to bottom. -/
def sectorCountY : Int := wHeight / sectorRange

/-- Sectors of a zone from left to right. -/
def sectorsPerZoneX : Int := 50

/-- Sectors of a zone from top to bottom. -/
def sectorsPerZoneY : Int := 50

/-- Zones from left to right. -/
def zoneCountX : Int := (sectorCountX + sectorsPerZoneX - 1) / sectorsPerZoneX

/-- Zones from top to bottom. -/
def zoneCountY : Int := (sectorCountY + sectorsPerZoneY - 1) / sectorsPerZoneY

/-- Zones of the world. -/
def zoneCount : Int := zoneCountX * zoneCountY

/-- The tile is one of the world. -/
def isValidWorldPosition (worldX worldY : Int) : Bool :=
  worldX ≥ 0 ∧ worldX < wWidth ∧ worldY ≥ 0 ∧ worldY < wHeight

/-- The sector is one of the world. -/
def isValidSector (sectorX sectorY : Int) : Bool :=
  sectorX ≥ 0 ∧ sectorX < sectorCountX ∧ sectorY ≥ 0 ∧ sectorY < sectorCountY

/-- The zone is one of the world. -/
def isValidZone (zone : ZoneCoord) : Bool :=
  zone.x ≥ 0 ∧ zone.x < zoneCountX ∧ zone.y ≥ 0 ∧ zone.y < zoneCountY

/-- The number is the number of a zone. -/
def isValidZoneId (zoneId : Nat) : Bool :=
  (zoneId : Int) < zoneCount

/-- The zone of a sector. -/
def getZoneCoordBySector (sectorX sectorY : Int) : ZoneCoord :=
  if isValidSector sectorX sectorY then
    { x := sectorX / sectorsPerZoneX, y := sectorY / sectorsPerZoneY }
  else {}

/-- The zone of a tile. -/
def getZoneCoordByWorld (worldX worldY : Int) : ZoneCoord :=
  if isValidWorldPosition worldX worldY then
    getZoneCoordBySector (worldX / sectorRange) (worldY / sectorRange)
  else {}

/-- The number of a zone, counted row by row. -/
def getZoneId (zone : ZoneCoord) : Nat :=
  if isValidZone zone then (zone.y * zoneCountX + zone.x).toNat else invalidZoneId

/-- The number of a tile's zone. -/
def getZoneIdByWorld (worldX worldY : Int) : Nat :=
  getZoneId (getZoneCoordByWorld worldX worldY)

/-- The zone with a number. -/
def getZoneCoordById (zoneId : Nat) : ZoneCoord :=
  if isValidZoneId zoneId then
    { x := (zoneId : Int) % zoneCountX, y := (zoneId : Int) / zoneCountX }
  else {}

theorem isValidWorldPosition_iff (worldX worldY : Int) :
    isValidWorldPosition worldX worldY = true ↔
      0 ≤ worldX ∧ worldX < 2000 ∧ 0 ≤ worldY ∧ worldY < 2000 :=
  decide_eq_true_iff

theorem isValidZoneId_iff (zoneId : Nat) : isValidZoneId zoneId = true ↔ zoneId < 16 := by
  have sixteen : zoneCount = 16 := by decide
  rw [isValidZoneId, decide_eq_true_iff, sixteen]
  omega

@[simp]
theorem isValidZoneId_invalidZoneId : isValidZoneId invalidZoneId = false := by
  decide

end ZoneLayout

open ZoneLayout

namespace Sector

/-- First sector column of a zone (`_offsetX`). -/
def offsetX (zone : Nat) : Int :=
  (getZoneCoordById zone).x * sectorsPerZoneX

/-- The first row of sectors of a zone. -/
def offsetY (zone : Nat) : Int :=
  (getZoneCoordById zone).y * sectorsPerZoneY

/-- The sector is one of the zone. -/
def isValidSector (zone : Nat) (sector : SectorCoord) : Bool :=
  sector.x ≥ offsetX zone ∧ sector.x < offsetX zone + sectorsPerZoneX ∧
    sector.y ≥ offsetY zone ∧ sector.y < offsetY zone + sectorsPerZoneY

/-- The sector of a tile. -/
def getSectorCoord (worldX worldY : Int) : SectorCoord :=
  if worldX < 0 ∨ worldX ≥ wWidth ∨ worldY < 0 ∨ worldY ≥ wHeight then {}
  else { x := worldX / sectorRange, y := worldY / sectorRange }

end Sector

/-! ## Zones as rectangles -/

theorem offset_eq {zone : Nat} (valid : isValidZoneId zone = true) :
    Sector.offsetX zone = zone % 4 * 50 ∧ Sector.offsetY zone = zone / 4 * 50 := by
  have columns : zoneCountX = 4 := by decide
  simp [Sector.offsetX, Sector.offsetY, getZoneCoordById, valid, columns, sectorsPerZoneX,
    sectorsPerZoneY]

theorem isValidSector_iff {zone : Nat} (valid : isValidZoneId zone = true)
    (sector : SectorCoord) :
    Sector.isValidSector zone sector = true ↔
      zone % 4 * 50 ≤ sector.x ∧ sector.x < zone % 4 * 50 + 50 ∧
        zone / 4 * 50 ≤ sector.y ∧ sector.y < zone / 4 * 50 + 50 := by
  rcases offset_eq valid with ⟨column, row⟩
  rw [Sector.isValidSector, decide_eq_true_iff, column, row]
  rfl

theorem getSectorCoord_eq (worldX worldY : Int) :
    Sector.getSectorCoord worldX worldY =
      if isValidWorldPosition worldX worldY then ⟨worldX / 10, worldY / 10⟩ else {} := by
  rw [Sector.getSectorCoord]
  by_cases inside : isValidWorldPosition worldX worldY = true
  · rw [if_pos inside, if_neg]
    · rfl
    · have bounds := (isValidWorldPosition_iff worldX worldY).mp inside
      have width : wWidth = 2000 := rfl
      have height : wHeight = 2000 := rfl
      omega
  · rw [if_neg inside, if_pos]
    rw [isValidWorldPosition_iff] at inside
    have width : wWidth = 2000 := rfl
    have height : wHeight = 2000 := rfl
    omega

/-- Zones are five hundred tiles wide and high. -/
theorem getZoneIdByWorld_eq (worldX worldY : Int) :
    getZoneIdByWorld worldX worldY =
      if isValidWorldPosition worldX worldY then (worldY / 500 * 4 + worldX / 500).toNat
      else invalidZoneId := by
  have columns : zoneCountX = 4 := by decide
  have rows : zoneCountY = 4 := by decide
  have sectorsX : sectorCountX = 200 := by decide
  have sectorsY : sectorCountY = 200 := by decide
  by_cases inside : isValidWorldPosition worldX worldY = true
  · have bounds := (isValidWorldPosition_iff worldX worldY).mp inside
    have column : worldX / sectorRange / sectorsPerZoneX = worldX / 500 := by
      have range : sectorRange = 10 := rfl
      have width : sectorsPerZoneX = 50 := rfl
      rw [range, width]
      omega
    have row : worldY / sectorRange / sectorsPerZoneY = worldY / 500 := by
      have range : sectorRange = 10 := rfl
      have height : sectorsPerZoneY = 50 := rfl
      rw [range, height]
      omega
    have validSector :
        ZoneLayout.isValidSector (worldX / sectorRange) (worldY / sectorRange) = true := by
      have range : sectorRange = 10 := rfl
      rw [ZoneLayout.isValidSector, decide_eq_true_iff, sectorsX, sectorsY, range]
      omega
    have validZone : isValidZone ⟨worldX / 500, worldY / 500⟩ = true := by
      rw [isValidZone, decide_eq_true_iff, columns, rows]
      dsimp only
      omega
    rw [getZoneIdByWorld, getZoneCoordByWorld, if_pos inside, getZoneCoordBySector,
      if_pos validSector, column, row, getZoneId, if_pos validZone, columns, if_pos inside]
  · have noZone : getZoneId {} = invalidZoneId := by decide
    rw [getZoneIdByWorld, getZoneCoordByWorld, if_neg inside, noZone, if_neg inside]

/-- A zone accepts a position exactly when the layout assigns the position to
it. -/
theorem isValidSector_getSectorCoord {zone : Nat} (valid : isValidZoneId zone = true)
    (worldX worldY : Int) :
    Sector.isValidSector zone (Sector.getSectorCoord worldX worldY) = true ↔
      getZoneIdByWorld worldX worldY = zone := by
  rw [isValidSector_iff valid, getZoneIdByWorld_eq, getSectorCoord_eq]
  rw [isValidZoneId_iff] at valid
  by_cases inside : isValidWorldPosition worldX worldY = true
  · have bounds := (isValidWorldPosition_iff worldX worldY).mp inside
    rw [if_pos inside, if_pos inside]
    dsimp only
    omega
  · rw [if_neg inside, if_neg inside, invalidZoneId]
    dsimp only
    omega

/-- The sector of a position lies in the zone of the position. -/
theorem isValidSector_of_zone {zone : Nat} (valid : isValidZoneId zone = true)
    {worldX worldY : Int} (inZone : getZoneIdByWorld worldX worldY = zone) :
    Sector.isValidSector zone (Sector.getSectorCoord worldX worldY) = true :=
  (isValidSector_getSectorCoord valid worldX worldY).mpr inZone

theorem getSectorCoord_of_zone {zone : Nat} (valid : isValidZoneId zone = true)
    {worldX worldY : Int} (inZone : getZoneIdByWorld worldX worldY = zone) :
    isValidWorldPosition worldX worldY = true ∧
      Sector.getSectorCoord worldX worldY = ⟨worldX / 10, worldY / 10⟩ := by
  rw [isValidZoneId_iff] at valid
  rw [getZoneIdByWorld_eq] at inZone
  by_cases inside : isValidWorldPosition worldX worldY = true
  · exact ⟨inside, by rw [getSectorCoord_eq, if_pos inside]⟩
  · rw [if_neg inside, invalidZoneId] at inZone
    omega

/-- The unassigned sector belongs to no zone. -/
theorem isValidSector_unassigned {zone : Nat} (valid : isValidZoneId zone = true) :
    Sector.isValidSector zone {} = false := by
  rw [← Bool.not_eq_true, isValidSector_iff valid]
  dsimp only
  omega

end Mmorpg
