import Mmorpg.World.SectorHelper

/-!
# Monsters

`MonsterHelper.cpp`.  The functions that choose a step are separated from the
step itself; `FindPath` is a value of the choice.
-/

namespace Mmorpg

open ZoneLayout

variable {grid : CollisionGrid}

namespace MonsterHelper

/-- A tile this many steps away lies in another zone. -/
def isNearZoneBoundary (x y : Int) : Bool :=
  let curZone := getZoneIdByWorld x y
  if curZone = invalidZoneId then false
  else
    let x1 := max 0 (x - zoneBoundaryMargin)
    let x2 := min (wWidth - 1) (x + zoneBoundaryMargin)
    let y1 := max 0 (y - zoneBoundaryMargin)
    let y2 := min (wHeight - 1) (y + zoneBoundaryMargin)
    getZoneIdByWorld x1 y ≠ curZone ∨ getZoneIdByWorld x2 y ≠ curZone ∨
      getZoneIdByWorld x y1 ≠ curZone ∨ getZoneIdByWorld x y2 ≠ curZone

/-- Steps to the left, right, up and down. -/
def manhattanDistance (a b : Int × Int) : Nat :=
  (a.1 - b.1).natAbs + (a.2 - b.2).natAbs

/-- One step to a tile that is free. -/
def isWalkableStep (grid : CollisionGrid) (current next : Int × Int) : Bool :=
  manhattanDistance next current = 1 ∧ ¬isCollision grid next.1 next.2

/-- `TryMoveCachedPathStep` up to the step itself; the path is stored with its
next tile last. -/
def cachedPathStep (grid : CollisionGrid) (position goal : Int × Int) (monster : Monster) :
    Option (Int × Int) × Monster :=
  if monster.hasCachedPathTo goal.1 goal.2 then
    match monster.path.getLast? with
    | none => (none, monster)
    | some next =>
        if isWalkableStep grid position next then
          (some next, { monster with path := monster.path.dropLast })
        else (none, monster.clearPath)
  else (none, monster)

/-- The nearest free neighbour that is closer to the goal, with its
distance. -/
def bestNeighbor (grid : CollisionGrid) (position goal : Int × Int) : Int × Int × Nat :=
  let directions : List (Int × Int) := [(0, -1), (0, 1), (-1, 0), (1, 0)]
  directions.foldl
    (fun best direction =>
      let next := (position.1 + direction.1, position.2 + direction.2)
      if isCollision grid next.1 next.2 then best
      else if manhattanDistance next goal ≥ best.2.2 then best
      else (next.1, next.2, manhattanDistance next goal))
    (position.1, position.2, manhattanDistance position goal)

/-- `TryMoveOneStepTowardGoal` up to the step itself. -/
def oneStepTowardGoal (grid : CollisionGrid) (position goal : Int × Int) (monster : Monster) :
    Option (Int × Int) × Monster :=
  let currentDistance := manhattanDistance position goal
  if currentDistance ≤ 1 then (none, monster)
  else
    let best := bestNeighbor grid position goal
    if best.2.2 ≥ currentDistance then (none, monster)
    else (some (best.1, best.2.1), monster.clearPath)

/-- `TryMoveUsingFreshPath` up to the step itself. -/
def freshPathStep (choice : Choice grid) (position goal : Int × Int) (monster : Monster) :
    Option (Int × Int) × Monster :=
  let path := choice.findPath position goal
  match path.getLast? with
  | none => (none, monster.clearPath)
  | some next =>
      if isWalkableStep grid position next then
        (some next, { monster with path := path.dropLast, pathGoalX := goal.1, pathGoalY := goal.2 })
      else (none, monster.clearPath)

/-- The step `TryAdvanceTowardGoal` takes, and the monster with its path
updated. -/
def stepTowardGoal (choice : Choice grid) (position goal : Int × Int) (monster : Monster) :
    Option (Int × Int) × Monster :=
  let cached := cachedPathStep grid position goal monster
  if cached.1.isSome then cached
  else
    let direct := oneStepTowardGoal grid position goal cached.2
    if direct.1.isSome then direct
    else freshPathStep choice position goal direct.2

/-- The two monsters differ in their remembered path only. -/
def SameButPath (before after : Monster) : Prop :=
  ∃ path goalX goalY,
    after = { before with path := path, pathGoalX := goalX, pathGoalY := goalY }

theorem SameButPath.refl (monster : Monster) : SameButPath monster monster :=
  ⟨monster.path, monster.pathGoalX, monster.pathGoalY, rfl⟩

theorem SameButPath.trans {first second third : Monster} (one : SameButPath first second)
    (two : SameButPath second third) : SameButPath first third := by
  rcases one with ⟨_, _, _, rfl⟩
  rcases two with ⟨path, goalX, goalY, rfl⟩
  exact ⟨path, goalX, goalY, rfl⟩

theorem sameButPath_clearPath (monster : Monster) : SameButPath monster monster.clearPath :=
  ⟨_, _, _, rfl⟩

theorem sameButPath_cachedPathStep (grid : CollisionGrid) (position goal : Int × Int)
    (monster : Monster) :
    SameButPath monster (cachedPathStep grid position goal monster).2 := by
  unfold cachedPathStep
  split
  · cases monster.path.getLast? with
    | none => exact SameButPath.refl monster
    | some next =>
        dsimp only
        split
        · exact ⟨_, _, _, rfl⟩
        · exact sameButPath_clearPath monster
  · exact SameButPath.refl monster

theorem sameButPath_oneStepTowardGoal (grid : CollisionGrid) (position goal : Int × Int)
    (monster : Monster) :
    SameButPath monster (oneStepTowardGoal grid position goal monster).2 := by
  unfold oneStepTowardGoal
  dsimp only
  split
  · exact SameButPath.refl monster
  · split
    · exact SameButPath.refl monster
    · exact sameButPath_clearPath monster

theorem sameButPath_freshPathStep (choice : Choice grid) (position goal : Int × Int)
    (monster : Monster) : SameButPath monster (freshPathStep choice position goal monster).2 := by
  unfold freshPathStep
  dsimp only
  cases (choice.findPath position goal).getLast? with
  | none => exact sameButPath_clearPath monster
  | some next =>
      dsimp only
      split
      · exact ⟨_, _, _, rfl⟩
      · exact sameButPath_clearPath monster

/-- Choosing a step only changes the remembered path. -/
theorem stepTowardGoal_frame (choice : Choice grid) (position goal : Int × Int) (monster : Monster) :
    SameButPath monster (stepTowardGoal choice position goal monster).2 := by
  have cached := sameButPath_cachedPathStep grid position goal monster
  have direct := cached.trans
    (sameButPath_oneStepTowardGoal grid position goal (cachedPathStep grid position goal monster).2)
  unfold stepTowardGoal
  dsimp only
  split
  · exact cached
  · split
    · exact direct
    · exact direct.trans (sameButPath_freshPathStep choice position goal _)

end MonsterHelper

namespace World

open MonsterHelper

/-- `AStarMove`, which is also the second half of `RandomMove`. -/
def aStarMove (zone : Nat) (choice : Choice grid) (monsterId : ObjID) (nextX nextY : Int)
    (world : World) : World :=
  match world.getMonster monsterId with
  | none => world
  | some (_, monster) =>
      let oldList := monster.viewList
      let updated := world.updatePosition zone monsterId nextX nextY
      let newList := updated.collectUsers zone choice monsterId
      (updated.replace choice monsterId oldList newList).modifyMonster monsterId
        fun current => { current with viewList := newList }

/-- The tile `RandomMove` steps on, unless it refuses the step. -/
def randomTarget (choice : Choice grid) (subject : Subject) : Option (Int × Int) :=
  let next := SubjectHelper.movePositionByDirection grid (subject.x, subject.y) choice.direction
  if !isValidWorldPosition next.1 next.2 ∨
      getZoneIdByWorld next.1 next.2 ≠ subject.transform.zoneId then none
  else some next

/-- Turn to the next tile and move there. -/
def moveMonsterStep (zone : Nat) (choice : Choice grid) (monsterId : ObjID) (subject : Subject)
    (next : Int × Int) (world : World) : World :=
  (world.modify monsterId (Subject.updateFacing (next.1 - subject.x))).aStarMove zone choice
    monsterId next.1 next.2

/-- `RandomMove`: one step in a random direction, unless it leads out of the
zone. -/
def randomMove (zone : Nat) (choice : Choice grid) (monsterId : ObjID) (world : World) : World :=
  match world.getMonster monsterId with
  | none => world
  | some (subject, _) =>
      match randomTarget choice subject with
      | none => world
      | some next => world.moveMonsterStep zone choice monsterId subject next

/-- The last attackable user the loop of `HandleRandomMove` meets. -/
def attackTarget (zone : Nat) (choice : Choice grid) (subject : Subject) (world : World) :
    Option ObjID :=
  ((world.viewers choice.hash zone subject).filter fun id =>
    (world.objects id).any fun user => SubjectHelper.canAttack subject user).getLast?

/-- `HandleRandomMove`: a dead monster does nothing, one that can hit a user
attacks, one that somebody sees walks on, and any other falls asleep. -/
def handleRandomMove (zone : Nat) (choice : Choice grid) (monsterId : ObjID) (world : World) : World :=
  match world.getMonster monsterId with
  | none => world
  | some (subject, monster) =>
      if monster.stat.dead then world
      else
        match world.attackTarget zone choice subject with
        | some targetId =>
            world.scheduleAfter zone monsterId 0 .evMonsterAttackToUser targetId
        | none =>
            if world.viewers choice.hash zone subject ≠ [] then
              (world.randomMove zone choice monsterId).scheduleAfter zone monsterId 500
                .evRandomMove ObjID.npos
            else
              world.modifyMonster monsterId fun current => { current.clearPath with active := false }

/-- `HandleMonsterRespawn` brings a monster back with full hit points, on a
random tile that becomes its spawn point. -/
def handleMonsterRespawn (zone : Nat) (choice : Choice grid) (monsterId : ObjID) (world : World) :
    World :=
  match world.getMonster monsterId with
  | none => world
  | some _ =>
      let revived := world.modifyMonster monsterId fun current =>
        { current.clearPath with
          stat := { current.stat with hp := monsterMaxHp, dead := false }
          active := false
          attack := false }
      let placed := revived.getRandomPosition zone choice monsterId
      match placed.objects monsterId with
      | none => placed
      | some subject =>
          let settled := placed.modifyMonster monsterId fun current =>
            { current with spawnX := subject.x, spawnY := subject.y }
          match settled.objects monsterId with
          | none => settled
          | some shown =>
              settled.sendAll (settled.viewers choice.hash zone shown)
                (respawnPacket monsterId shown)

/-- `TryAdvanceTowardGoal`. -/
def tryAdvanceTowardGoal (zone : Nat) (choice : Choice grid) (monsterId : ObjID) (goal : Int × Int)
    (world : World) : Bool × World :=
  match world.getMonster monsterId with
  | none => (false, world)
  | some (subject, monster) =>
      let planned := stepTowardGoal choice (subject.x, subject.y) goal monster
      let updated := world.modifyMonster monsterId fun _ => planned.2
      match planned.1 with
      | none => (false, updated)
      | some next => (true, updated.moveMonsterStep zone choice monsterId subject next)

/-- The monster forgets its path and is no longer active. -/
def stopMonster (monsterId : ObjID) (world : World) : World :=
  world.modifyMonster monsterId fun current => { current.clearPath with active := false }

/-- The way back to the spawn point, taken at the zone border and at the end
of the leash. -/
def returnToSpawn (zone : Nat) (choice : Choice grid) (monsterId targetId : ObjID)
    (spawn : Int × Int) (world : World) : World :=
  let advanced := world.tryAdvanceTowardGoal zone choice monsterId spawn
  if advanced.1 then advanced.2.scheduleAfter zone monsterId 500 .evAggroMove targetId
  else advanced.2.stopMonster monsterId

/-- The target checks at the head of `HandleAggroMove`. -/
def isChasable (subject : Subject) (targetId : ObjID) (world : World) : Bool :=
  match world.getUser targetId with
  | none => false
  | some (target, _) =>
      world.isIngame targetId ∧ target.transform.zoneId = subject.transform.zoneId

/-- What `HandleAggroMove` does once the target is accepted. -/
inductive AggroPlan
  | stop
  | returnToSpawn
  | attack
  | chase
  deriving DecidableEq, Repr

/-- What an aggressive monster does about its target: near the border of the
zone or away from its spawn it turns back, and next to the target it attacks. -/
def aggroPlan (subject : Subject) (monster : Monster) (target : Subject) : AggroPlan :=
  if isNearZoneBoundary subject.x subject.y then
    if isNearZoneBoundary monster.spawnX monster.spawnY then .stop else .returnToSpawn
  else if (subject.x - monster.spawnX).natAbs > 7 ∨ (subject.y - monster.spawnY).natAbs > 7 then
    .returnToSpawn
  else if SubjectHelper.canAttack subject target then .attack
  else .chase

/-- The end of `HandleAggroMove` after a chasing step. -/
def afterChase (zone : Nat) (monsterId targetId : ObjID) (world : World) : World :=
  match world.objects monsterId, world.objects targetId with
  | some subject, some target =>
      if SubjectHelper.canSee subject target then
        (world.modifyMonster monsterId fun current => { current with active := true })
          |>.scheduleAfter zone monsterId 500 .evAggroMove targetId
      else world.stopMonster monsterId
  | _, _ => world

/-- `HandleAggroMove`: a target that has left the game or the zone is given up,
and otherwise the plan is carried out. -/
def handleAggroMove (zone : Nat) (choice : Choice grid) (monsterId targetId : ObjID) (world : World) :
    World :=
  match world.getMonster monsterId with
  | none => world
  | some (subject, monster) =>
      if monster.stat.dead then world
      else if !world.isChasable subject targetId then
        world.modifyMonster monsterId fun current =>
          { current.clearPath with active := false, attack := false }
      else
        match world.objects targetId with
        | none => world
        | some target =>
            let calmed := world.modifyMonster monsterId fun current =>
              { current with attack := false }
            match aggroPlan subject monster target with
            | .stop => calmed.stopMonster monsterId
            | .returnToSpawn =>
                calmed.returnToSpawn zone choice monsterId targetId
                  (monster.spawnX, monster.spawnY)
            | .attack =>
                let scheduled :=
                  if monster.attack then world
                  else world.scheduleAfter zone monsterId 0 .evMonsterAttackToUser targetId
                scheduled.scheduleAfter zone monsterId 500 .evAggroMove targetId
            | .chase =>
                (world.tryAdvanceTowardGoal zone choice monsterId (target.x, target.y)).2.afterChase
                  zone monsterId targetId

/-- The conditions under which `HandleAttackToPlayer` drops its attack. -/
def attackMisses (subject : Subject) (monster : Monster) (victimId : ObjID) (victim : Subject)
    (world : World) : Bool :=
  !world.isIngame victimId ∨ victim.isDead ∨ !SubjectHelper.isAdjacent subject victim ∨
    monster.stat.dead

/-- The branch of `HandleAttackToPlayer` after a hit that the victim
survives. -/
def surviveAttack (zone : Nat) (choice : Choice grid) (monsterId playerId : ObjID) (subject : Subject)
    (victim : Subject) (hp : Nat) (world : World) : World :=
  let notified := world.sendAll (world.viewers choice.hash zone victim)
    (.subjectAttackNfy playerId monsterId hp)
  if SubjectHelper.canAttack subject victim then
    notified.scheduleAfter zone monsterId 1000 .evMonsterAttackToUser playerId
  else
    notified.modifyMonster monsterId fun current => { current.clearPath with attack := false }

/-- The branch of `HandleAttackToPlayer` for the victim's death. -/
def killPlayer (zone : Nat) (choice : Choice grid) (monsterId playerId : ObjID) (victim : Subject)
    (hp : Nat) (world : World) : World :=
  let notified := world.sendAll (world.viewers choice.hash zone victim)
    (.subjectDieNfy playerId hp)
  let calmed := notified.modifyMonster monsterId fun current =>
    { current.clearPath with attack := false, active := false }
  (calmed.removeObject zone playerId victim.transform).scheduleAfter zone playerId 30000
    .evUserRespawn ObjID.npos

/-- `HandleAttackToPlayer`: one hit; an attack that misses ends here, with
nothing scheduled. -/
def handleAttackToPlayer (zone : Nat) (choice : Choice grid) (monsterId playerId : ObjID)
    (world : World) : World :=
  match world.getMonster monsterId, world.getUser playerId with
  | some (subject, monster), some (victim, user) =>
      let attacking := world.modifyMonster monsterId fun current => { current with attack := true }
      if world.attackMisses subject monster playerId victim then
        attacking.modifyMonster monsterId fun current => { current.clearPath with attack := false }
      else
        let stat := user.stat.takeDamage monsterOffensive
        let hit := attacking.setStat playerId fun current => current.takeDamage monsterOffensive
        if stat.dead then hit.killPlayer zone choice monsterId playerId victim stat.hp
        else hit.surviveAttack zone choice monsterId playerId subject victim stat.hp
  | _, _ => world

end World

end Mmorpg
