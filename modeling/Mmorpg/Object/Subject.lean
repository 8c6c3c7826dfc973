import Mmorpg.Item.Inventory
import Mmorpg.Zone.Collision

/-!
# Subjects

What stands on the map: a `Subject` with its `Transform`, and the body of a
user, a monster or a field item.  The source keeps a user's `Stat` behind a
shared pointer that the inventory also reaches; here it is stored once, in the
inventory.
-/

namespace Mmorpg

/-- `Transform`: world position, cached sector and owning zone. -/
structure Transform where
  x : Int := -1
  y : Int := -1
  sector : SectorCoord := {}
  zoneId : Nat := invalidZoneId
  transferring : Bool := false
  deriving DecidableEq, Repr

/-- Passive monsters strike back, aggressive ones strike first. -/
inductive MonsterType
  | passive | aggro
  deriving DecidableEq, Repr

/-- The first identifier of a monster. -/
def monsterIdStart : Nat := 1000000000

/-- How many monsters the server makes. -/
def maxMonster : Nat := 200000

/-- Monsters up to this identifier are aggressive. -/
def aggroMonsterBoundary : Nat := monsterIdStart + maxMonster / 4 - 1

/-- A monster: its stat and type, the path it follows and the goal of that
path, whether it is active and attacking, its spawn point, and the users it is
shown to. -/
structure Monster where
  stat : Stat
  type : MonsterType
  path : List (Int × Int) := []
  active : Bool := false
  attack : Bool := false
  spawnX : Int := 0
  spawnY : Int := 0
  pathGoalX : Int := -1
  pathGoalY : Int := -1
  viewList : List ObjID := []
  deriving DecidableEq, Repr

namespace Monster

/-- `Monster::InitInstance`. -/
def initInstance (databaseId : Nat) : Monster where
  stat := { maxHp := monsterMaxHp, hp := monsterMaxHp, offensive := monsterOffensive, dead := false }
  type := if databaseId ≤ aggroMonsterBoundary then .aggro else .passive

/-- The monster still has tiles of a path to this goal. -/
def hasCachedPathTo (x y : Int) (monster : Monster) : Bool :=
  monster.pathGoalX = x ∧ monster.pathGoalY = y ∧ monster.path ≠ []

/-- The monster forgets its path. -/
def clearPath (monster : Monster) : Monster :=
  { monster with path := [], pathGoalX := -1, pathGoalY := -1 }

end Monster

/-- `User`.  The session carries the same number as the object. -/
structure User where
  inventory : Inventory
  lastMoveTime : UInt32 := 0
  lastAttackTime : UInt32 := 0
  lastSkillTime : UInt32 := 0
  lastPotionUseTime : UInt32 := 0

namespace User

/-- The stat of a user, which its inventory keeps up to date. -/
def stat (user : User) : Stat :=
  user.inventory.stat

/-- A change of the user's stat. -/
def setStat (stat : Stat) (user : User) : User :=
  { user with inventory := { user.inventory with stat := stat } }

/-- `User::InitInstance` with the owner data of the new inventory. -/
def initInstance (id : ObjID) (playerId : Int) (level exp : Nat) : User where
  inventory :=
    { ownerId := id
      playerId := playerId
      stat := { maxHp := playerMaxHp, hp := playerMaxHp, offensive := playerOffensive, dead := false
                level := level, exp := exp }
      slots := fun _ => none
      issued := [] }

end User

/-- What a subject is: a user, a monster or an item. -/
inductive Body
  | user (user : User)
  | monster (monster : Monster)
  | item (item : Item)

/-- A game object: its name, where it is, which way it faces and what it is. -/
structure Subject where
  name : String
  transform : Transform := {}
  facingLeft : Bool := false
  body : Body

namespace Subject

/-- The column of its tile. -/
def x (subject : Subject) : Int :=
  subject.transform.x

/-- The row of its tile. -/
def y (subject : Subject) : Int :=
  subject.transform.y

/-- `GetStat()->IsDead()`; items have no `Stat`. -/
def isDead (subject : Subject) : Bool :=
  match subject.body with
  | .user user => user.stat.dead
  | .monster monster => monster.stat.dead
  | .item _ => false

/-- The category the registry files a body under. -/
def category (subject : Subject) : EnumCategory :=
  match subject.body with
  | .user _ => .eUser
  | .monster _ => .eMonster
  | .item _ => .eItem

/-- A step to the left or right turns the subject. -/
def updateFacing (dx : Int) (subject : Subject) : Subject :=
  { subject with facingLeft := if dx ≠ 0 then dx < 0 else subject.facingLeft }

end Subject

namespace SubjectHelper

/-- Within the range of view in both directions. -/
def canSee (a b : Subject) : Bool :=
  (a.x - b.x).natAbs ≤ viewRange ∧ (a.y - b.y).natAbs ≤ viewRange

/-- One of the four tiles next to it. -/
def isAdjacent (a b : Subject) : Bool :=
  (b.x - a.x).natAbs + (b.y - a.y).natAbs = 1

/-- Next to it, and not behind the attacker's back. -/
def canAttack (a b : Subject) : Bool :=
  isAdjacent a b ∧ ¬(b.x - a.x > 0 ∧ a.facingLeft) ∧ ¬(b.x - a.x < 0 ∧ ¬a.facingLeft)

end SubjectHelper

end Mmorpg
