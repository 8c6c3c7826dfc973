import Mmorpg.World.Apart
import Mmorpg.World.Itinerary
import Mmorpg.World.Placement

/-!
# Repeated calls with one goal

`TryAdvanceTowardGoal` called again and again for one monster.  The choice of a
step does not look at the borders of the zone, while the update of the position
refuses to cross them and the call returns true all the same.
-/

namespace Mmorpg

open Search ZoneLayout MonsterHelper

variable {grid : CollisionGrid}

namespace World

/-- The walker a monster is. -/
def walker (id : ObjID) (world : World) : Option Walker :=
  (world.getMonster id).map fun found => Walker.ofMonster (found.1.x, found.1.y) found.2

variable {zone : Nat} {id : ObjID} {subject : Subject} {monster : Monster} {world : World}
  {choice : Choice grid}

theorem walker_modifyMonster (change : Monster → Monster)
    (found : world.getMonster id = some (subject, monster)) :
    (world.modifyMonster id change).walker id =
      some (Walker.ofMonster (subject.x, subject.y) (change monster)) := by
  rw [walker, getMonster_modifyMonster change found]
  rfl

/-- Telling clients does not move the monster. -/
theorem getMonster_replace (oldList newList : List ObjID) :
    (world.replace choice id oldList newList).getMonster id = world.getMonster id := by
  unfold replace
  split
  · rfl
  · rfl

/-- `UpdatePosition` moves a monster inside the zone of the thread only. -/
theorem getMonster_updatePosition {x y : Int} (valid : isValidZoneId zone = true)
    (found : world.getMonster id = some (subject, monster)) :
    (world.updatePosition zone id x y).getMonster id =
      some (if getZoneIdByWorld x y = zone then subject.placedAt zone x y else subject,
        monster) := by
  split
  · next inside =>
    rw [getMonster_eq_some] at found ⊢
    rw [(updatePosition_settled valid found.1 inside).objects, Function.update_self]
    exact ⟨rfl, found.2⟩
  · next outside => rw [updatePosition_outside valid outside, found]

/-- A step is taken if it stays in the zone of the thread. -/
theorem walker_moveMonsterStep {next : Int × Int} (shown : Subject) (valid : isValidZoneId zone = true)
    (found : world.getMonster id = some (subject, monster)) :
    (world.moveMonsterStep zone choice id shown next).walker id =
      some (Walker.ofMonster
        (if getZoneIdByWorld next.1 next.2 = zone then next else (subject.x, subject.y))
        monster) := by
  have facing : (world.modify id (Subject.updateFacing (next.1 - shown.x))).getMonster id =
      some (subject.updateFacing (next.1 - shown.x), monster) := by
    rw [getMonster_eq_some] at found ⊢
    rw [modify, found.1]
    exact ⟨Function.update_self _ _ _, found.2⟩
  have placed : ((world.modify id (Subject.updateFacing (next.1 - shown.x))).updatePosition zone
      id next.1 next.2).getMonster id = _ := getMonster_updatePosition valid facing
  rw [moveMonsterStep, aStarMove, facing]
  dsimp only
  rw [walker_modifyMonster _ ((getMonster_replace _ _).trans placed)]
  split
  · rfl
  · rfl

variable {walker : Walker} {goal next : Int × Int} {rest : List (Int × Int)}
  {pops : Int × Int → Int × Int → Nat → PopOrder (Int × Int)}

theorem getMonster_of_walker (found : world.walker id = some walker) :
    ∃ subject monster, world.getMonster id = some (subject, monster) ∧
      walker = Walker.ofMonster (subject.x, subject.y) monster := by
  rcases Option.map_eq_some_iff.mp found with ⟨⟨subject, monster⟩, known, rfl⟩
  exact ⟨subject, monster, known, rfl⟩

/-- At the end of its itinerary the monster stays. -/
theorem tryAdvanceTowardGoal_stays (searched : choice.findPath = foundPath grid pops)
    (valid : isValidZoneId zone = true) (found : world.walker id = some walker)
    (inZone : getZoneIdByWorld walker.position.1 walker.position.2 = zone)
    (ended : walker.itinerary grid pops goal = []) :
    (world.tryAdvanceTowardGoal zone choice id goal).1 = false ∧
      ∃ later, (world.tryAdvanceTowardGoal zone choice id goal).2.walker id = some later ∧
        later.position = walker.position ∧ later.itinerary grid pops goal = [] := by
  obtain ⟨subject, monster, known, rfl⟩ := getMonster_of_walker found
  have inWorld := (getSectorCoord_of_zone valid inZone).1
  have follows : Walker.Follows grid pops goal (subject.x, subject.y)
      (stepTowardGoal choice (subject.x, subject.y) goal monster)
      ((Walker.ofMonster (subject.x, subject.y) monster).itinerary grid pops goal) :=
    Walker.follows_itinerary searched inWorld
  rw [ended] at follows
  rcases follows with ⟨chosen, after⟩
  rw [tryAdvanceTowardGoal, known]
  dsimp only
  rw [chosen]
  exact ⟨rfl, _, walker_modifyMonster _ known, rfl, after⟩

/-- A call with a tile ahead reports a step; the monster takes it unless the
tile lies outside the zone. -/
theorem tryAdvanceTowardGoal_steps (searched : choice.findPath = foundPath grid pops)
    (valid : isValidZoneId zone = true) (found : world.walker id = some walker)
    (inZone : getZoneIdByWorld walker.position.1 walker.position.2 = zone)
    (ahead : walker.itinerary grid pops goal = next :: rest) :
    (world.tryAdvanceTowardGoal zone choice id goal).1 = true ∧
      isWalkableStep grid walker.position next = true ∧
      ∃ later, (world.tryAdvanceTowardGoal zone choice id goal).2.walker id = some later ∧
        if getZoneIdByWorld next.1 next.2 = zone then
          later.position = next ∧ later.itinerary grid pops goal = rest
        else later.position = walker.position := by
  obtain ⟨subject, monster, known, rfl⟩ := getMonster_of_walker found
  have inWorld := (getSectorCoord_of_zone valid inZone).1
  have follows : Walker.Follows grid pops goal (subject.x, subject.y)
      (stepTowardGoal choice (subject.x, subject.y) goal monster)
      ((Walker.ofMonster (subject.x, subject.y) monster).itinerary grid pops goal) :=
    Walker.follows_itinerary searched inWorld
  rw [ahead] at follows
  rcases follows with ⟨chosen, step, after⟩
  rw [tryAdvanceTowardGoal, known]
  dsimp only
  rw [chosen]
  refine ⟨rfl, step, _, walker_moveMonsterStep subject valid (getMonster_modifyMonster _ known), ?_⟩
  split
  · exact ⟨rfl, after⟩
  · rfl

end World

/-! ## The zone of an itinerary -/

namespace Walker

variable {zone : Nat} {goal : Int × Int} {walker : Walker}
  {pops : Int × Int → Int × Int → Nat → PopOrder (Int × Int)}

/-- What the monster can follow of the path it remembers. -/
def followed (grid : CollisionGrid) (goal : Int × Int) (walker : Walker) : List (Int × Int) :=
  walkable grid walker.position (walker.remembered goal)

/-- Where the followed part ends. -/
def turn (grid : CollisionGrid) (goal : Int × Int) (walker : Walker) : Int × Int :=
  (walker.followed grid goal).getLastD walker.position

/-- Where all of the itinerary ends. -/
def destination (grid : CollisionGrid)
    (pops : Int × Int → Int × Int → Nat → PopOrder (Int × Int)) (goal : Int × Int)
    (walker : Walker) : Int × Int :=
  (walker.itinerary grid pops goal).getLastD walker.position

/-- Neither the remembered path nor the fresh one leads out of the zone. -/
structure StaysInZone (grid : CollisionGrid)
    (pops : Int × Int → Int × Int → Nat → PopOrder (Int × Int)) (zone : Nat) (goal : Int × Int)
    (walker : Walker) : Prop where
  followed : ∀ tile ∈ walker.followed grid goal, getZoneIdByWorld tile.1 tile.2 = zone
  fresh : ∀ tile ∈ foundPath grid pops (impasse grid goal (walker.turn grid goal)) goal,
    getZoneIdByWorld tile.1 tile.2 = zone

theorem getLastD_append (early later : List (Int × Int)) (position : Int × Int) :
    (early ++ later).getLastD position = later.getLastD (early.getLastD position) := by
  simp only [List.getLastD_eq_getLast?, List.getLast?_append, Option.getD_or]

/-- The remembered path, the greedy steps and the fresh path. -/
theorem itinerary_eq : walker.itinerary grid pops goal =
    walker.followed grid goal ++ descent grid goal (walker.turn grid goal) ++
      (foundPath grid pops (impasse grid goal (walker.turn grid goal)) goal).reverse :=
  (List.append_assoc _ _ _).symm

/-- The end of the remembered path lies in the zone. -/
theorem zone_of_turn (inZone : getZoneIdByWorld walker.position.1 walker.position.2 = zone)
    (followed : ∀ tile ∈ walker.followed grid goal, getZoneIdByWorld tile.1 tile.2 = zone) :
    getZoneIdByWorld (walker.turn grid goal).1 (walker.turn grid goal).2 = zone := by
  have either : walker.turn grid goal ∈ walker.position :: walker.followed grid goal :=
    List.getLastD_mem_cons
  rcases List.mem_cons.mp either with here | there
  · rw [here]
    exact inZone
  · exact followed _ there

/-- Greedy steps never lead out of the zone. -/
theorem staysInZone_iff (valid : isValidZoneId zone = true)
    (inZone : getZoneIdByWorld walker.position.1 walker.position.2 = zone)
    (goalInZone : getZoneIdByWorld goal.1 goal.2 = zone) :
    walker.StaysInZone grid pops zone goal ↔
      ∀ tile ∈ walker.itinerary grid pops goal, getZoneIdByWorld tile.1 tile.2 = zone := by
  rw [itinerary_eq]
  constructor
  · intro stays tile among
    rcases List.mem_append.mp among with early | fresh
    · rcases List.mem_append.mp early with followed | greedy
      · exact stays.followed tile followed
      · exact zone_of_mem_descent valid (zone_of_turn inZone stays.followed) goalInZone greedy
    · exact stays.fresh tile (List.mem_reverse.mp fresh)
  · intro everywhere
    constructor
    case followed =>
      intro tile among
      exact everywhere tile (List.mem_append_left _ (List.mem_append_left _ among))
    case fresh =>
      intro tile among
      exact everywhere tile (List.mem_append_right _ (List.mem_reverse.mpr among))

/-- The itinerary leads to a goal that can be reached at all. -/
theorem destination_eq (valid : isValidZoneId zone = true)
    (inZone : getZoneIdByWorld walker.position.1 walker.position.2 = zone)
    (goalInZone : getZoneIdByWorld goal.1 goal.2 = zone)
    (stays : walker.StaysInZone grid pops zone goal)
    (reachable : ∃ route, Route grid (impasse grid goal (walker.turn grid goal)) goal route) :
    walker.destination grid pops goal = goal := by
  have impasseInZone : getZoneIdByWorld (impasse grid goal (walker.turn grid goal)).1
      (impasse grid goal (walker.turn grid goal)).2 = zone := by
    have turnInZone := zone_of_turn inZone stays.followed
    have either : impasse grid goal (walker.turn grid goal) ∈
        walker.turn grid goal :: descent grid goal (walker.turn grid goal) :=
      List.getLastD_mem_cons
    rcases List.mem_cons.mp either with here | there
    · rw [here]
      exact turnInZone
    · exact zone_of_mem_descent valid turnInZone goalInZone there
  have inWorld := (getSectorCoord_of_zone valid impasseInZone).1
  have arrives : (foundPath grid pops (impasse grid goal (walker.turn grid goal)) goal).reverse.getLastD
      (impasse grid goal (walker.turn grid goal)) = goal := getLastD_foundPath inWorld reachable
  rw [destination, itinerary_eq, getLastD_append, getLastD_append]
  exact arrives

end Walker

/-! ## Call after call -/

/-- Repeated calls with one goal and one search.  Between two calls anything
may change but where the monster stands and the path it remembers. -/
structure Approach (grid : CollisionGrid)
    (pops : Int × Int → Int × Int → Nat → PopOrder (Int × Int)) (zone : Nat) (monsterId : ObjID)
    (goal : Int × Int) where
  choice : Nat → Choice grid
  before : Nat → World
  searched : ∀ call, (choice call).findPath = foundPath grid pops
  undisturbed : ∀ call, (before (call + 1)).walker monsterId =
    ((before call).tryAdvanceTowardGoal zone (choice call) monsterId goal).2.walker monsterId

namespace Approach

variable {pops : Int × Int → Int × Int → Nat → PopOrder (Int × Int)} {zone : Nat}
  {monsterId : ObjID} {goal : Int × Int} {approach : Approach grid pops zone monsterId goal}
  {call : Nat} {walker : Walker}

/-- What a call returned. -/
def returned (call : Nat) (approach : Approach grid pops zone monsterId goal) : Bool :=
  ((approach.before call).tryAdvanceTowardGoal zone (approach.choice call) monsterId goal).1

/-- Where the monster stands before a call. -/
def tile (call : Nat) (approach : Approach grid pops zone monsterId goal) : Option (Int × Int) :=
  ((approach.before call).walker monsterId).map Walker.position

/-- Calls that return true take a step, and there are finitely many until the
goal is reached or a call returns false. -/
structure Progresses (approach : Approach grid pops zone monsterId goal) : Prop where
  steps : ∀ call, approach.returned call = true → ∃ source target,
    approach.tile call = some source ∧ approach.tile (call + 1) = some target ∧
      FourNeighbours source target ∧ isCollision grid target.1 target.2 = false
  ends : ∃ call, approach.tile call = some goal ∨ approach.returned call = false

/-- A call at the end of the itinerary returns false, and so will the next. -/
theorem stays (valid : isValidZoneId zone = true)
    (here : (approach.before call).walker monsterId = some walker)
    (inZone : getZoneIdByWorld walker.position.1 walker.position.2 = zone)
    (ended : walker.itinerary grid pops goal = []) :
    approach.returned call = false ∧
      ∃ later, (approach.before (call + 1)).walker monsterId = some later ∧
        later.position = walker.position ∧ later.itinerary grid pops goal = [] := by
  rw [returned, approach.undisturbed]
  exact World.tryAdvanceTowardGoal_stays (approach.searched call) valid here inZone ended

/-- A call with a tile ahead returns true. -/
theorem advances {next : Int × Int} {rest : List (Int × Int)} (valid : isValidZoneId zone = true)
    (here : (approach.before call).walker monsterId = some walker)
    (inZone : getZoneIdByWorld walker.position.1 walker.position.2 = zone)
    (ahead : walker.itinerary grid pops goal = next :: rest) :
    approach.returned call = true ∧ isWalkableStep grid walker.position next = true ∧
      ∃ later, (approach.before (call + 1)).walker monsterId = some later ∧
        if getZoneIdByWorld next.1 next.2 = zone then
          later.position = next ∧ later.itinerary grid pops goal = rest
        else later.position = walker.position := by
  rw [returned, approach.undisturbed]
  exact World.tryAdvanceTowardGoal_steps (approach.searched call) valid here inZone ahead

theorem tile_of_walker (here : (approach.before call).walker monsterId = some walker) :
    approach.tile call = some walker.position := by
  rw [tile, here]
  rfl

/-- When every call that returns true takes a step, no tile ahead lies outside
the zone. -/
theorem zone_of_progress (progresses : approach.Progresses) (valid : isValidZoneId zone = true)
    {ahead : List (Int × Int)} (here : (approach.before call).walker monsterId = some walker)
    (inZone : getZoneIdByWorld walker.position.1 walker.position.2 = zone)
    (leads : walker.itinerary grid pops goal = ahead) :
    ∀ tile ∈ ahead, getZoneIdByWorld tile.1 tile.2 = zone := by
  induction ahead generalizing call walker with
  | nil => exact fun tile among => absurd among List.not_mem_nil
  | cons next rest ih =>
      obtain ⟨returned, _, later, there, moved⟩ := approach.advances valid here inZone leads
      by_cases nextInZone : getZoneIdByWorld next.1 next.2 = zone
      · rw [if_pos nextInZone] at moved
        rcases moved with ⟨rfl, left⟩
        intro tile among
        rcases List.mem_cons.mp among with rfl | further
        · exact nextInZone
        · exact ih there nextInZone left tile further
      · -- the refused step leaves the monster where it was
        rw [if_neg nextInZone] at moved
        obtain ⟨source, target, from', to', step, _⟩ := progresses.steps call returned
        rw [approach.tile_of_walker here, Option.some.injEq] at from'
        rw [approach.tile_of_walker there, Option.some.injEq, moved] at to'
        rw [← from', ← to'] at step
        simp [FourNeighbours] at step

/-- Inside the zone every call takes one tile off the itinerary. -/
theorem itinerary_drop {start : Walker} (valid : isValidZoneId zone = true)
    (found : (approach.before 0).walker monsterId = some start)
    (inZone : getZoneIdByWorld start.position.1 start.position.2 = zone)
    (stays : ∀ tile ∈ start.itinerary grid pops goal, getZoneIdByWorld tile.1 tile.2 = zone)
    (call : Nat) :
    ∃ walker, (approach.before call).walker monsterId = some walker ∧
      getZoneIdByWorld walker.position.1 walker.position.2 = zone ∧
      walker.itinerary grid pops goal = (start.itinerary grid pops goal).drop call ∧
      walker.destination grid pops goal = start.destination grid pops goal := by
  induction call with
  | zero => exact ⟨start, found, inZone, rfl, rfl⟩
  | succ call ih =>
      obtain ⟨walker, here, walkerInZone, left, bound⟩ := ih
      cases ahead : walker.itinerary grid pops goal with
      | nil =>
          obtain ⟨_, later, there, same, ended⟩ := approach.stays valid here walkerInZone ahead
          refine ⟨later, there, same ▸ walkerInZone, ?_, ?_⟩
          · rw [← List.drop_drop, ← left, ahead, ended]
            rfl
          · rw [← bound, Walker.destination, Walker.destination, ended, ahead, same]
      | cons next rest =>
          have nextInZone : getZoneIdByWorld next.1 next.2 = zone := by
            apply stays
            apply List.mem_of_mem_drop
            rw [← left, ahead]
            exact List.mem_cons_self
          obtain ⟨_, _, later, there, moved⟩ := approach.advances valid here walkerInZone ahead
          rw [if_pos nextInZone] at moved
          rcases moved with ⟨rfl, further⟩
          refine ⟨later, there, nextInZone, ?_, ?_⟩
          · rw [← List.drop_drop, ← left, ahead, further]
            rfl
          · rw [← bound, Walker.destination, Walker.destination, further, ahead, List.getLastD_cons]

/-- Inside the zone every call makes progress. -/
theorem progress_of_zone {start : Walker} (valid : isValidZoneId zone = true)
    (found : (approach.before 0).walker monsterId = some start)
    (inZone : getZoneIdByWorld start.position.1 start.position.2 = zone)
    (stays : ∀ tile ∈ start.itinerary grid pops goal, getZoneIdByWorld tile.1 tile.2 = zone) :
    approach.Progresses := by
  constructor
  case steps =>
    intro call returned
    obtain ⟨walker, here, walkerInZone, left, _⟩ :=
      approach.itinerary_drop valid found inZone stays call
    cases ahead : walker.itinerary grid pops goal with
    | nil =>
        have refused := (approach.stays valid here walkerInZone ahead).1
        rw [refused] at returned
        contradiction
    | cons next rest =>
        have nextInZone : getZoneIdByWorld next.1 next.2 = zone := by
          apply stays
          apply List.mem_of_mem_drop
          rw [← left, ahead]
          exact List.mem_cons_self
        obtain ⟨_, step, later, there, moved⟩ := approach.advances valid here walkerInZone ahead
        rw [if_pos nextInZone] at moved
        rcases moved with ⟨rfl, _⟩
        have walked := isWalkableStep_iff.mp step
        exact ⟨walker.position, later.position, approach.tile_of_walker here,
          approach.tile_of_walker there, walked.1, walked.2⟩
  case ends =>
    obtain ⟨walker, here, walkerInZone, left, _⟩ :=
      approach.itinerary_drop valid found inZone stays (start.itinerary grid pops goal).length
    rw [List.drop_length] at left
    exact ⟨_, Or.inr (approach.stays valid here walkerInZone left).1⟩

/-- A goal that can be reached is reached, after as many calls as tiles. -/
theorem arrives {start : Walker} (valid : isValidZoneId zone = true)
    (found : (approach.before 0).walker monsterId = some start)
    (inZone : getZoneIdByWorld start.position.1 start.position.2 = zone)
    (goalInZone : getZoneIdByWorld goal.1 goal.2 = zone)
    (stays : start.StaysInZone grid pops zone goal)
    (reachable : ∃ route, Route grid (impasse grid goal (start.turn grid goal)) goal route) :
    approach.tile (start.itinerary grid pops goal).length = some goal := by
  obtain ⟨walker, here, _, left, bound⟩ := approach.itinerary_drop valid found inZone
    ((Walker.staysInZone_iff valid inZone goalInZone).mp stays)
    (start.itinerary grid pops goal).length
  rw [List.drop_length] at left
  rw [Walker.destination_eq valid inZone goalInZone stays reachable, Walker.destination, left,
    List.getLastD_nil] at bound
  rw [approach.tile_of_walker here, bound]

/-- Repeated calls make progress and end exactly when the tiles ahead of the
monster lie in its zone. -/
theorem progresses_iff_staysInZone (approach : Approach grid pops zone monsterId goal)
    {start : Walker} (valid : isValidZoneId zone = true)
    (found : (approach.before 0).walker monsterId = some start)
    (inZone : getZoneIdByWorld start.position.1 start.position.2 = zone)
    (goalInZone : getZoneIdByWorld goal.1 goal.2 = zone) :
    approach.Progresses ↔ start.StaysInZone grid pops zone goal := by
  rw [Walker.staysInZone_iff valid inZone goalInZone]
  constructor
  · exact fun progresses => approach.zone_of_progress progresses valid found inZone rfl
  · exact approach.progress_of_zone valid found inZone

/-- Calls with nothing between them. -/
def repeated (choice : Choice grid)
    (pops : Int × Int → Int × Int → Nat → PopOrder (Int × Int))
    (searched : choice.findPath = foundPath grid pops) (zone : Nat) (monsterId : ObjID)
    (goal : Int × Int) (world : World) : Approach grid pops zone monsterId goal where
  choice _ := choice
  before call := (fun current =>
    (current.tryAdvanceTowardGoal zone choice monsterId goal).2)^[call] world
  searched _ := searched
  undisturbed call := by rw [Function.iterate_succ_apply']

/-- A monster that nobody watches. -/
def unwatched (x y : Int) : World :=
  { World.empty with
    objects := Function.update (fun _ => none) (ObjID.monster monsterIdStart)
      (some
        { name := "orc"
          transform := { x := x, y := y, sector := Sector.getSectorCoord x y, zoneId := 0 }
          body := .monster (Monster.initInstance monsterIdStart) }) }

/-- The repeated calls for it on the map of the game. -/
def onGameMap (x y : Int) (goal : Int × Int) :
    Approach initCollisionTile (fun _ _ _ => .sorted) 0 (ObjID.monster monsterIdStart) goal :=
  repeated { Choice.steady with
    findPath := foundPath initCollisionTile fun _ _ _ => .sorted } _ rfl _ _ _ (unwatched x y)

theorem walker_onGameMap (x y : Int) (goal : Int × Int) :
    ((onGameMap x y goal).before 0).walker (ObjID.monster monsterIdStart) =
      some ⟨(x, y), [], (-1, -1)⟩ := by
  rfl

/-- Round an obstacle inside the zone. -/
theorem progresses_iff_staysInZone_sample : (onGameMap 2 5 (4, 5)).Progresses := by
  rw [progresses_iff_staysInZone _ (by decide) (walker_onGameMap 2 5 (4, 5)) (by decide) (by decide)]
  constructor
  · decide
  · decide +kernel

/-- Repeated calls with any free goal in the zone of the monster make
progress. -/
def AlwaysProgresses : Prop :=
  ∀ (grid : CollisionGrid) (pops : Int × Int → Int × Int → Nat → PopOrder (Int × Int)) (zone : Nat)
    (monsterId : ObjID) (goal : Int × Int) (approach : Approach grid pops zone monsterId goal)
    (start : Walker), isValidZoneId zone = true →
    (approach.before 0).walker monsterId = some start →
    getZoneIdByWorld start.position.1 start.position.2 = zone →
    getZoneIdByWorld goal.1 goal.2 = zone → isCollision grid goal.1 goal.2 = false →
    approach.Progresses

/-- The shortest way round an obstacle at the border leads through the next
zone, and the first call already returns true without a step. -/
theorem not_alwaysProgresses : ¬AlwaysProgresses := by
  intro always
  have progresses := always _ _ _ _ _ (onGameMap 499 11 (499, 14)) _ (by decide)
    (walker_onGameMap 499 11 (499, 14)) (by decide) (by decide) (by decide)
  have ahead : (Walker.mk (499, 11) [] (-1, -1)).itinerary initCollisionTile
      (fun _ _ _ => .sorted) (499, 14) =
        [(500, 11), (500, 12), (500, 13), (500, 14), (499, 14)] := by
    decide +kernel
  have outside := zone_of_progress progresses (by decide) (walker_onGameMap 499 11 (499, 14))
    (by decide) ahead (500, 11) List.mem_cons_self
  exact absurd outside (by decide)

end Approach

end Mmorpg
