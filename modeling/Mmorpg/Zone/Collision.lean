import Mmorpg.Zone.ZoneLayout

/-!
# Collision tiles and single steps

`Collision.cpp` and `SubjectHelper::MovePositionByDirection`.  The tile table
`GCollision` is a parameter of everything that looks at it; the source fills it
once, from a fixed formula.
-/

namespace Mmorpg

/-- The pattern of obstacles. -/
def checkCollision (xPos yPos : Int) : Bool :=
  if xPos < 0 ∨ yPos < 0 ∨ xPos ≥ wWidth ∨ yPos ≥ wHeight then false
  else if (xPos / 3 + yPos / 3) % 3 = 0 then false
  else if (xPos / 3 + yPos / 3) % 3 = 1 then false
  else (xPos / 2 + yPos / 2) % 3 = 0

/-- `GCollision`; the source indexes it with the row first. -/
abbrev CollisionGrid := Int → Int → Bool

/-- `InitCollisionTile`. -/
def initCollisionTile : CollisionGrid := fun i j => checkCollision i j

/-- Everything outside the world collides. -/
def isCollision (grid : CollisionGrid) (xPos yPos : Int) : Bool :=
  if xPos < 0 ∨ yPos < 0 ∨ xPos ≥ wWidth ∨ yPos ≥ wHeight then true
  else grid yPos xPos

namespace SubjectHelper

/-- One step up or down, undone when the tile collides. -/
def stepY (grid : CollisionGrid) (delta : Int) (position : Int × Int) : Int × Int :=
  if isCollision grid position.1 (position.2 + delta) then position
  else (position.1, position.2 + delta)

/-- A step to the left or right, unless the tile is blocked. -/
def stepX (grid : CollisionGrid) (delta : Int) (position : Int × Int) : Int × Int :=
  if isCollision grid (position.1 + delta) position.2 then position
  else (position.1 + delta, position.2)

/-- A step up, inside the world. -/
def up (grid : CollisionGrid) (position : Int × Int) : Int × Int :=
  if position.2 > 0 then stepY grid (-1) position else position

/-- A step down, inside the world. -/
def down (grid : CollisionGrid) (position : Int × Int) : Int × Int :=
  if position.2 < wHeight - 1 then stepY grid 1 position else position

/-- A step to the left, inside the world. -/
def left (grid : CollisionGrid) (position : Int × Int) : Int × Int :=
  if position.1 > 0 then stepX grid (-1) position else position

/-- A step to the right, inside the world. -/
def right (grid : CollisionGrid) (position : Int × Int) : Int × Int :=
  if position.1 < wWidth - 1 then stepX grid 1 position else position

/-- Diagonals treat the axes one after the other, so walls are slid along. -/
def movePositionByDirection (grid : CollisionGrid) (position : Int × Int) (direction : Int) :
    Int × Int :=
  match direction with
  | 0 => up grid position
  | 1 => down grid position
  | 2 => left grid position
  | 3 => right grid position
  | 4 => left grid (up grid position)
  | 5 => right grid (up grid position)
  | 6 => left grid (down grid position)
  | 7 => right grid (down grid position)
  | _ => position

end SubjectHelper

end Mmorpg
