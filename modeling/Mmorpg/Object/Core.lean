import Mathlib.Data.Nat.Basic

/-!
# Object identities, statistics and transforms

The parts every game object shares: the category and database identifier that
make up an `ObjID`, the `Stat` block of users and monsters, and the `Transform`
with its cached sector and zone.  Constants carry the names of `Protocol.h`.
-/

namespace Mmorpg

/-! ## Protocol constants -/

/-- Slots of one inventory. -/
def maxInventorySlots : Nat := 30

/-- `PLAYER_MAX_HP`. -/
def playerMaxHp : Nat := 100

/-- `MONSTER_MAX_HP`. -/
def monsterMaxHp : Nat := 60

/-- `PLAYER_OFFENSIVE`, the attack power without a weapon. -/
def playerOffensive : Nat := 10

/-- `SKILL_DAMAGE`. -/
def skillDamage : Nat := 50

/-- `MONSTER_OFFENSIVE`. -/
def monsterOffensive : Nat := 3

/-- `HEAL_SIZE`, what one heal event gives back. -/
def healSize : Nat := 10

/-- Characters of a chat message, the final zero included. -/
def chatSize : Nat := 128

/-! ## Identities -/

/-- Object category stored in the first word of a `ContentID`. -/
inductive EnumCategory
  | eNone | eAccount | eUser | eMonster | eStat | eUserLv | eHp | eExp | eItem
  deriving DecidableEq, Repr

/-- A category together with an identifier that is unique inside it. -/
structure ObjID where
  category : EnumCategory
  databaseId : Nat
  deriving DecidableEq, Repr

namespace ObjID

/-- The default identifier, used by the source for "nobody". -/
def npos : ObjID := ⟨.eNone, 0⟩

/-- Identifier of the player that belongs to a session object id. -/
def user (session : Nat) : ObjID := ⟨.eUser, session⟩

/-- The identifier of a monster. -/
def monster (databaseId : Nat) : ObjID := ⟨.eMonster, databaseId⟩

/-- The identifier of an item on the ground. -/
def item (instanceId : Nat) : ObjID := ⟨.eItem, instanceId⟩

@[simp]
theorem user_inj {first second : Nat} : user first = user second ↔ first = second := by
  simp [user]

@[simp]
theorem user_category (session : Nat) : (user session).category = .eUser :=
  rfl

@[simp]
theorem user_databaseId (session : Nat) : (user session).databaseId = session :=
  rfl

@[simp]
theorem monster_category (databaseId : Nat) : (monster databaseId).category = .eMonster :=
  rfl

@[simp]
theorem item_category (instanceId : Nat) : (item instanceId).category = .eItem :=
  rfl

end ObjID

/-! ## Statistics -/

/-- Hit points, attack power and progress of a user or monster. -/
structure Stat where
  maxHp : Nat := 0
  hp : Nat := 0
  offensive : Nat := 0
  dead : Bool := true
  level : Nat := 1
  exp : Nat := 0
  deriving DecidableEq, Repr

namespace Stat

/-- `MAX_LEVEL`. -/
def maxLevel : Nat := 5

/-- Experience needed to leave levels one to four. -/
def expTable : List Nat := [30, 50, 70, 90]

/-- Apply damage; reaching zero hit points sets the dead flag. -/
def takeDamage (amount : Nat) (stat : Stat) : Stat :=
  let next := if stat.hp > amount then stat.hp - amount else 0
  { stat with hp := next, dead := if next = 0 then true else stat.dead }

/-- Recover hit points without passing `maxCap`. -/
def healHp (amount maxCap : Nat) (stat : Stat) : Stat :=
  { stat with hp := if stat.hp + amount ≥ maxCap then maxCap else stat.hp + amount }

/-- Add experience on a 32-bit counter and advance at most one level. -/
def addExp (amount : Nat) (stat : Stat) : Stat :=
  if stat.level ≥ maxLevel then
    stat
  else
    let exp := (stat.exp + amount) % 4294967296
    let needed := expTable.getD (stat.level - 1) 0
    if exp ≥ needed then
      { stat with exp := exp - needed, level := stat.level + 1 }
    else
      { stat with exp := exp }

@[simp]
theorem healHp_dead (amount maxCap : Nat) (stat : Stat) :
    (stat.healHp amount maxCap).dead = stat.dead :=
  rfl

@[simp]
theorem addExp_dead (amount : Nat) (stat : Stat) : (stat.addExp amount).dead = stat.dead := by
  simp only [addExp]
  split
  · rfl
  · split <;> rfl

@[simp]
theorem addExp_hp (amount : Nat) (stat : Stat) : (stat.addExp amount).hp = stat.hp := by
  simp only [addExp]
  split
  · rfl
  · split <;> rfl

/-- Damage is fatal exactly when it covers the remaining hit points. -/
theorem takeDamage_hp_eq_zero_iff (amount : Nat) (stat : Stat) :
    (stat.takeDamage amount).hp = 0 ↔ stat.hp ≤ amount := by
  simp only [takeDamage]
  split <;> omega

/-- Damage kills when it takes the last hit points. -/
theorem takeDamage_dead (amount : Nat) (stat : Stat) :
    (stat.takeDamage amount).dead = (decide (stat.hp ≤ amount) || stat.dead) := by
  by_cases fatal : stat.hp ≤ amount
  · have stays : ¬stat.hp > amount := by omega
    simp [takeDamage, fatal, stays]
  · have survives : stat.hp > amount := by omega
    have positive : stat.hp - amount ≠ 0 := by omega
    simp [takeDamage, fatal, survives, positive]

end Stat

end Mmorpg
