import Mmorpg.World.MonsterHelper
import Mmorpg.Zone.FindPath

/-!
# The way to a goal

Where the three strategies of `TryAdvanceTowardGoal` lead a monster when its
goal stays the same: along the path it remembers, then by greedy steps, then
along a fresh path.  One call takes the first tile off this itinerary.
-/

namespace Mmorpg

open Search ZoneLayout

variable {grid : CollisionGrid}

/-- More turns than a search of the whole world takes. -/
def searchFuel : Nat := 20000002

/-- The path `FindPath` returns, the goal first; `pops` breaks the ties of each
search. -/
def foundPath (grid : CollisionGrid) (pops : Int × Int → Int × Int → Nat → PopOrder (Int × Int))
    (start goal : Int × Int) : List (Int × Int) :=
  ((findPath grid (pops start goal) searchFuel start goal).getD []).map (·.position)

section Route

variable {start goal next : Int × Int} {rest : List (Int × Int)}

theorem Route.first (route : Route grid start goal (next :: rest)) : FourNeighbours start next :=
  (List.isChain_cons_cons.mp route.adjacent).1

theorem Route.tail (route : Route grid start goal (next :: rest)) : Route grid next goal rest where
  adjacent := (List.isChain_cons_cons.mp route.adjacent).2
  arrives := by
    have arrives := route.arrives
    rwa [List.getLast?_cons_cons] at arrives
  inWorld tile among := route.inWorld tile (List.mem_cons_of_mem next among)
  free tile among := route.free tile (List.mem_cons_of_mem next among)

theorem Route.getLastD_eq {tiles : List (Int × Int)} (route : Route grid start goal tiles) :
    tiles.getLastD start = goal := by
  have arrives := route.arrives
  rw [List.getLast?_cons, Option.some.injEq] at arrives
  rwa [List.getLastD_eq_getLast?]

end Route

section Found

variable {pops : Int × Int → Int × Int → Nat → PopOrder (Int × Int)} {start goal : Int × Int}

theorem foundPath_self (goal : Int × Int) : foundPath grid pops goal goal = [] := by
  rw [foundPath, findPath, if_pos ⟨rfl, rfl⟩]
  rfl

/-- What is found is a shortest route, unless there is none. -/
theorem foundPath_apart (pops : Int × Int → Int × Int → Nat → PopOrder (Int × Int))
    (different : start ≠ goal) (inWorld : isValidWorldPosition start.1 start.2 = true) :
    foundPath grid pops start goal = [] ∧ (¬∃ route, Route grid start goal route) ∨
      Route grid start goal (foundPath grid pops start goal).reverse := by
  have enough : 20000002 ≤ searchFuel := Nat.le_refl _
  obtain ⟨tiles, answered, answer⟩ := findPath_apart (pops start goal) different inWorld enough
  have same : foundPath grid pops start goal = tiles := by
    rw [foundPath, answered, Option.getD_some, List.map_map]
    exact List.map_id tiles
  rw [same]
  rcases answer with none | ⟨_, _, route, _⟩
  · exact Or.inl none
  · exact Or.inr route

theorem route_of_foundPath (inWorld : isValidWorldPosition start.1 start.2 = true)
    (found : foundPath grid pops start goal ≠ []) :
    Route grid start goal (foundPath grid pops start goal).reverse := by
  by_cases same : start = goal
  · subst same
    exact absurd (foundPath_self start) found
  · rcases foundPath_apart pops same inWorld with ⟨nothing, _⟩ | route
    · exact absurd nothing found
    · exact route

/-- A goal that can be reached is at the end of the path. -/
theorem getLastD_foundPath (inWorld : isValidWorldPosition start.1 start.2 = true)
    (reachable : ∃ route, Route grid start goal route) :
    (foundPath grid pops start goal).reverse.getLastD start = goal := by
  by_cases same : start = goal
  · subst same
    rw [foundPath_self]
    rfl
  · rcases foundPath_apart pops same inWorld with ⟨_, unreachable⟩ | route
    · exact absurd reachable unreachable
    · exact route.getLastD_eq

end Found

namespace MonsterHelper

variable {position goal next : Int × Int} {monster : Monster} {choice : Choice grid}

/-- A walkable step leads to a free neighbour. -/
theorem isWalkableStep_iff : isWalkableStep grid position next = true ↔
    FourNeighbours position next ∧ isCollision grid next.1 next.2 = false := by
  have sameStep : manhattanDistance next position = 1 ↔ FourNeighbours position next := by
    simp only [manhattanDistance, FourNeighbours]
    omega
  rw [isWalkableStep, decide_eq_true_iff, Bool.not_eq_true, sameStep]

/-! ## Greedy steps -/

/-- The tile `TryMoveOneStepTowardGoal` steps on. -/
def greedyTile (grid : CollisionGrid) (position goal : Int × Int) : Option (Int × Int) :=
  if manhattanDistance position goal ≤ 1 then none
  else
    let best := bestNeighbor grid position goal
    if best.2.2 ≥ manhattanDistance position goal then none else some (best.1, best.2.1)

theorem oneStepTowardGoal_eq (grid : CollisionGrid) (position goal : Int × Int)
    (monster : Monster) :
    oneStepTowardGoal grid position goal monster =
      match greedyTile grid position goal with
      | none => (none, monster)
      | some next => (some next, monster.clearPath) := by
  rw [oneStepTowardGoal, greedyTile]
  dsimp only
  by_cases close : manhattanDistance position goal ≤ 1
  · rw [if_pos close, if_pos close]
  · rw [if_neg close, if_neg close]
    by_cases stuck : (bestNeighbor grid position goal).2.2 ≥ manhattanDistance position goal
    · rw [if_pos stuck, if_pos stuck]
    · rw [if_neg stuck, if_neg stuck]

/-- What the loop over the directions keeps true of its best tile. -/
def IsCandidate (grid : CollisionGrid) (position goal : Int × Int) (best : Int × Int × Nat) : Prop :=
  best.2.2 = manhattanDistance (best.1, best.2.1) goal ∧
    (best.2.2 < manhattanDistance position goal →
      FourNeighbours position (best.1, best.2.1) ∧ isCollision grid best.1 best.2.1 = false)

/-- The tile that is chosen is one of those looked at. -/
theorem isCandidate_bestNeighbor (grid : CollisionGrid) (position goal : Int × Int) :
    IsCandidate grid position goal (bestNeighbor grid position goal) := by
  unfold bestNeighbor
  dsimp only
  have adjacent : ∀ direction ∈ directions,
      FourNeighbours position (position.1 + direction.1, position.2 + direction.2) :=
    fun direction among => mem_directions_iff.mp (List.mem_map_of_mem among)
  have start : IsCandidate grid position goal
      (position.1, position.2, manhattanDistance position goal) :=
    ⟨rfl, fun closer => absurd closer (Nat.lt_irrefl _)⟩
  change IsCandidate grid position goal (directions.foldl _ _)
  generalize directions = remaining at adjacent
  generalize (position.1, position.2, manhattanDistance position goal) = best at start
  induction remaining generalizing best with
  | nil => exact start
  | cons direction rest ih =>
      have later := fun other among => adjacent other (List.mem_cons_of_mem direction among)
      rw [List.foldl_cons]
      apply ih later
      split
      · exact start
      · next free =>
        split
        · exact start
        · exact ⟨rfl, fun _ =>
            ⟨adjacent direction List.mem_cons_self, Bool.eq_false_of_not_eq_true free⟩⟩

/-- A greedy step leads to a free neighbour that is closer to the goal. -/
theorem greedyTile_spec (chosen : greedyTile grid position goal = some next) :
    isWalkableStep grid position next = true ∧
      manhattanDistance next goal < manhattanDistance position goal := by
  have candidate := isCandidate_bestNeighbor grid position goal
  unfold greedyTile at chosen
  dsimp only at chosen
  split at chosen
  · contradiction
  · split at chosen
    · contradiction
    · next closer =>
      rw [not_le] at closer
      obtain rfl := Option.some.inj chosen
      rw [isWalkableStep_iff]
      exact ⟨candidate.2 closer, candidate.1 ▸ closer⟩

/-- A step that brings the goal closer does not leave the zone of both. -/
theorem zone_of_closer {zone : Nat} (step : FourNeighbours position next)
    (closer : manhattanDistance next goal < manhattanDistance position goal)
    (valid : isValidZoneId zone = true)
    (inZone : getZoneIdByWorld position.1 position.2 = zone)
    (goalInZone : getZoneIdByWorld goal.1 goal.2 = zone) :
    getZoneIdByWorld next.1 next.2 = zone := by
  have inWorld := (getSectorCoord_of_zone valid inZone).1
  have goalInWorld := (getSectorCoord_of_zone valid goalInZone).1
  rw [getZoneIdByWorld_eq, if_pos inWorld] at inZone
  rw [getZoneIdByWorld_eq, if_pos goalInWorld] at goalInZone
  rw [isValidWorldPosition_iff] at inWorld goalInWorld
  simp only [FourNeighbours, manhattanDistance] at step closer
  have between : (min position.1 goal.1 ≤ next.1 ∧ next.1 ≤ max position.1 goal.1) ∧
      min position.2 goal.2 ≤ next.2 ∧ next.2 ≤ max position.2 goal.2 := by
    clear inWorld goalInWorld inZone goalInZone
    omega
  have sameColumn : position.1 / 500 = goal.1 / 500 := by
    clear step closer between
    omega
  have sameRow : position.2 / 500 = goal.2 / 500 := by
    clear step closer between
    omega
  have column : next.1 / 500 = position.1 / 500 := by
    clear step closer inZone goalInZone
    omega
  have row : next.2 / 500 = position.2 / 500 := by
    clear step closer inZone goalInZone
    omega
  have nextInWorld : isValidWorldPosition next.1 next.2 = true := by
    rw [isValidWorldPosition_iff]
    clear step closer inZone goalInZone
    omega
  rw [getZoneIdByWorld_eq, if_pos nextInWorld, column, row]
  exact inZone

/-- The tiles of the greedy steps; the distance to the goal is turns enough. -/
def greedyTiles (grid : CollisionGrid) (goal : Int × Int) : Nat → Int × Int → List (Int × Int)
  | 0, _ => []
  | turns + 1, position =>
      match greedyTile grid position goal with
      | none => []
      | some next => next :: greedyTiles grid goal turns next

/-- The tiles of greedy steps towards the goal. -/
def descent (grid : CollisionGrid) (goal position : Int × Int) : List (Int × Int) :=
  greedyTiles grid goal (manhattanDistance position goal) position

/-- Greedy steps end where no neighbour is nearer. -/
theorem descent_of_none (stuck : greedyTile grid position goal = none) :
    descent grid goal position = [] := by
  unfold descent
  cases manhattanDistance position goal with
  | zero => rfl
  | succ turns => rw [greedyTiles, stuck]

theorem descent_of_some (chosen : greedyTile grid position goal = some next) :
    descent grid goal position = next :: descent grid goal next := by
  obtain ⟨walkable, closer⟩ := greedyTile_spec chosen
  have step := (isWalkableStep_iff.mp walkable).1
  have oneLess : manhattanDistance position goal = manhattanDistance next goal + 1 := by
    simp only [FourNeighbours, manhattanDistance] at step closer ⊢
    omega
  rw [descent, oneLess, greedyTiles, chosen, descent]

theorem descent_self (grid : CollisionGrid) (goal : Int × Int) : descent grid goal goal = [] := by
  apply descent_of_none
  have here : manhattanDistance goal goal ≤ 1 := by
    simp only [manhattanDistance]
    omega
  rw [greedyTile, if_pos here]

/-- Greedy steps between two tiles of a zone stay in it. -/
theorem zone_of_mem_descent {zone : Nat} {tile : Int × Int} (valid : isValidZoneId zone = true)
    (inZone : getZoneIdByWorld position.1 position.2 = zone)
    (goalInZone : getZoneIdByWorld goal.1 goal.2 = zone)
    (among : tile ∈ descent grid goal position) : getZoneIdByWorld tile.1 tile.2 = zone := by
  induction turns : manhattanDistance position goal using Nat.strong_induction_on
    generalizing position with
  | h turns ih =>
      cases chosen : greedyTile grid position goal with
      | none =>
          rw [descent_of_none chosen] at among
          exact absurd among List.not_mem_nil
      | some next =>
          rw [descent_of_some chosen] at among
          obtain ⟨walkable, closer⟩ := greedyTile_spec chosen
          have step := (isWalkableStep_iff.mp walkable).1
          have nextInZone := zone_of_closer step closer valid inZone goalInZone
          rcases List.mem_cons.mp among with rfl | later
          · exact nextInZone
          · exact ih _ (turns ▸ closer) nextInZone later rfl

/-! ## Remembered paths -/

/-- The steps of a path up to the first that cannot be taken. -/
def walkable (grid : CollisionGrid) : Int × Int → List (Int × Int) → List (Int × Int)
  | _, [] => []
  | position, next :: rest =>
      if isWalkableStep grid position next then next :: walkable grid next rest else []

/-- Every step of a route can be taken. -/
theorem walkable_route {start : Int × Int} {tiles : List (Int × Int)}
    (route : Route grid start goal tiles) : walkable grid start tiles = tiles := by
  induction tiles generalizing start with
  | nil => rfl
  | cons next rest ih =>
      have first : isWalkableStep grid start next = true := by
        rw [isWalkableStep_iff]
        exact ⟨route.first, route.free next List.mem_cons_self⟩
      rw [walkable, if_pos first, ih route.tail]

/-! ## From greedy steps to a fresh path -/

variable {pops : Int × Int → Int × Int → Nat → PopOrder (Int × Int)}

/-- Where greedy steps get no closer to the goal. -/
def impasse (grid : CollisionGrid) (goal position : Int × Int) : Int × Int :=
  (descent grid goal position).getLastD position

/-- The tiles ahead of a monster that remembers no path. -/
def unplanned (grid : CollisionGrid) (pops : Int × Int → Int × Int → Nat → PopOrder (Int × Int))
    (goal position : Int × Int) : List (Int × Int) :=
  descent grid goal position ++ (foundPath grid pops (impasse grid goal position) goal).reverse

/-- Without a path the monster takes a greedy step if it can. -/
theorem unplanned_of_some (chosen : greedyTile grid position goal = some next) :
    unplanned grid pops goal position = next :: unplanned grid pops goal next := by
  rw [unplanned, impasse, descent_of_some chosen, List.getLastD_cons, List.cons_append, unplanned,
    impasse]

theorem unplanned_of_none (stuck : greedyTile grid position goal = none) :
    unplanned grid pops goal position = (foundPath grid pops position goal).reverse := by
  rw [unplanned, impasse, descent_of_none stuck, List.getLastD_nil, List.nil_append]

theorem unplanned_self (goal : Int × Int) : unplanned grid pops goal goal = [] := by
  rw [unplanned, impasse, descent_self, List.getLastD_nil, foundPath_self]
  rfl

/-- The tiles ahead of a monster that remembers a path over `tiles`. -/
def planned (grid : CollisionGrid) (pops : Int × Int → Int × Int → Nat → PopOrder (Int × Int))
    (goal position : Int × Int) (tiles : List (Int × Int)) : List (Int × Int) :=
  walkable grid position tiles ++
    unplanned grid pops goal ((walkable grid position tiles).getLastD position)

variable {rest tiles : List (Int × Int)}

/-- It follows its path as long as that can be walked. -/
theorem planned_of_step (step : isWalkableStep grid position next = true) :
    planned grid pops goal position (next :: rest) = next :: planned grid pops goal next rest := by
  rw [planned, walkable, if_pos step, List.getLastD_cons, List.cons_append, planned]

theorem planned_of_blocked (blocked : isWalkableStep grid position next ≠ true) :
    planned grid pops goal position (next :: rest) = unplanned grid pops goal position := by
  rw [planned, walkable, if_neg blocked]
  rfl

theorem planned_route (route : Route grid position goal tiles) :
    planned grid pops goal position tiles = tiles := by
  rw [planned, walkable_route route, route.getLastD_eq, unplanned_self, List.append_nil]

end MonsterHelper

/-- What the next steps of a monster to its goal depend on. -/
structure Walker where
  position : Int × Int
  path : List (Int × Int)
  pathGoal : Int × Int
  deriving DecidableEq, Repr

namespace Walker

open MonsterHelper

/-- A monster with its path and the goal of the path. -/
def ofMonster (position : Int × Int) (monster : Monster) : Walker where
  position := position
  path := monster.path
  pathGoal := (monster.pathGoalX, monster.pathGoalY)

/-- The remembered path to `goal`, the next tile first. -/
def remembered (goal : Int × Int) (walker : Walker) : List (Int × Int) :=
  if walker.pathGoal = goal then walker.path.reverse else []

/-- All tiles the monster is led over. -/
def itinerary (grid : CollisionGrid)
    (pops : Int × Int → Int × Int → Nat → PopOrder (Int × Int)) (goal : Int × Int)
    (walker : Walker) : List (Int × Int) :=
  planned grid pops goal walker.position (walker.remembered goal)

variable {pops : Int × Int → Int × Int → Nat → PopOrder (Int × Int)} {goal : Int × Int}

theorem remembered_clearPath (position : Int × Int) (monster : Monster) :
    (ofMonster position monster.clearPath).remembered goal = [] := by
  unfold remembered
  split
  · rfl
  · rfl

/-- A monster that forgot its path has to plan again. -/
theorem itinerary_clearPath (position : Int × Int) (monster : Monster) :
    (ofMonster position monster.clearPath).itinerary grid pops goal =
      unplanned grid pops goal position := by
  rw [itinerary, remembered_clearPath]
  rfl

/-- A chosen step and the monster after it use up the first of `tiles`, the
tiles ahead. -/
def Follows (grid : CollisionGrid) (pops : Int × Int → Int × Int → Nat → PopOrder (Int × Int))
    (goal position : Int × Int) (chosen : Option (Int × Int) × Monster) :
    List (Int × Int) → Prop
  | [] => chosen.1 = none ∧ (ofMonster position chosen.2).itinerary grid pops goal = []
  | next :: rest => chosen.1 = some next ∧ isWalkableStep grid position next = true ∧
      (ofMonster next chosen.2).itinerary grid pops goal = rest

variable {position next : Int × Int} {rest : List (Int × Int)} {monster : Monster}
  {choice : Choice grid}

/-! ## The first tile of the itinerary -/

/-- The path is kept from its end to its beginning. -/
theorem path_of_remembered
    (remembers : (ofMonster position monster).remembered goal = next :: rest) :
    (monster.pathGoalX, monster.pathGoalY) = goal ∧ monster.path = rest.reverse ++ [next] := by
  unfold remembered at remembers
  split at remembers
  · next same =>
    have path : monster.path.reverse = next :: rest := remembers
    exact ⟨same, by rw [← List.reverse_reverse monster.path, path, List.reverse_cons]⟩
  · contradiction

theorem hasCachedPathTo_of_remembered
    (remembers : (ofMonster position monster).remembered goal = next :: rest) :
    monster.hasCachedPathTo goal.1 goal.2 = true ∧ monster.path.getLast? = some next := by
  obtain ⟨rfl, path⟩ := path_of_remembered remembers
  rw [Monster.hasCachedPathTo, decide_eq_true_iff, path, List.getLast?_concat]
  exact ⟨⟨rfl, rfl, List.concat_ne_nil next rest.reverse⟩, rfl⟩

theorem cachedPathStep_of_step
    (remembers : (ofMonster position monster).remembered goal = next :: rest)
    (step : isWalkableStep grid position next = true) :
    cachedPathStep grid position goal monster =
      (some next, { monster with path := rest.reverse }) := by
  obtain ⟨cached, last⟩ := hasCachedPathTo_of_remembered remembers
  have shorter : monster.path.dropLast = rest.reverse := by
    rw [(path_of_remembered remembers).2, List.dropLast_concat]
  rw [cachedPathStep, if_pos cached, last]
  dsimp only
  rw [if_pos step, shorter]

theorem cachedPathStep_of_blocked
    (remembers : (ofMonster position monster).remembered goal = next :: rest)
    (blocked : isWalkableStep grid position next ≠ true) :
    (cachedPathStep grid position goal monster).1 = none := by
  obtain ⟨cached, last⟩ := hasCachedPathTo_of_remembered remembers
  rw [cachedPathStep, if_pos cached, last]
  dsimp only
  rw [if_neg blocked]

theorem cachedPathStep_of_nil (remembers : (ofMonster position monster).remembered goal = []) :
    (cachedPathStep grid position goal monster).1 = none := by
  have uncached : monster.hasCachedPathTo goal.1 goal.2 ≠ true := by
    rw [Monster.hasCachedPathTo, ne_eq, decide_eq_true_iff]
    rintro ⟨sameX, sameY, nonempty⟩
    have same : (ofMonster position monster).pathGoal = goal := Prod.ext sameX sameY
    rw [remembered, if_pos same] at remembers
    exact nonempty (List.reverse_eq_nil_iff.mp remembers)
  rw [cachedPathStep, if_neg uncached]

/-- A route that is remembered is the itinerary. -/
theorem itinerary_route {tiles : List (Int × Int)} (route : Route grid position goal tiles) :
    (ofMonster position { monster with
      path := tiles.reverse, pathGoalX := goal.1, pathGoalY := goal.2 }).itinerary grid pops goal =
      tiles := by
  have remembers : (ofMonster position { monster with
      path := tiles.reverse, pathGoalX := goal.1, pathGoalY := goal.2 }).remembered goal =
      tiles := by
    rw [remembered]
    exact (if_pos rfl).trans (List.reverse_reverse tiles)
  rw [itinerary, remembers]
  exact planned_route route

/-- The first step of a path that was just found. -/
theorem follows_freshPathStep (searched : choice.findPath = foundPath grid pops)
    (inWorld : isValidWorldPosition position.1 position.2 = true)
    (stuck : greedyTile grid position goal = none) :
    Follows grid pops goal position (freshPathStep choice position goal monster)
      (foundPath grid pops position goal).reverse := by
  cases ahead : (foundPath grid pops position goal).reverse with
  | nil =>
      have nothing : foundPath grid pops position goal = [] := List.reverse_eq_nil_iff.mp ahead
      have gaveUp : freshPathStep choice position goal monster = (none, monster.clearPath) := by
        rw [freshPathStep, searched, nothing]
        rfl
      rw [gaveUp]
      exact ⟨rfl, by rw [itinerary_clearPath, unplanned_of_none stuck, ahead]⟩
  | cons next rest =>
      have path : foundPath grid pops position goal = rest.reverse ++ [next] := by
        rw [← List.reverse_reverse (foundPath grid pops position goal), ahead, List.reverse_cons]
      have leads : Route grid position goal (next :: rest) := by
        rw [← ahead]
        apply route_of_foundPath inWorld
        rw [path]
        exact List.concat_ne_nil next rest.reverse
      have step : isWalkableStep grid position next = true := by
        rw [isWalkableStep_iff]
        exact ⟨leads.first, leads.free next List.mem_cons_self⟩
      have remembering : freshPathStep choice position goal monster = (some next, { monster with
          path := rest.reverse, pathGoalX := goal.1, pathGoalY := goal.2 }) := by
        rw [freshPathStep, searched, path, List.getLast?_concat]
        dsimp only
        rw [if_pos step, List.dropLast_concat]
      rw [remembering]
      exact ⟨rfl, step, itinerary_route leads.tail⟩

/-- Without a remembered step the call takes a greedy or a fresh one. -/
theorem follows_unplanned (searched : choice.findPath = foundPath grid pops)
    (inWorld : isValidWorldPosition position.1 position.2 = true)
    (uncached : (cachedPathStep grid position goal monster).1 = none) :
    Follows grid pops goal position (stepTowardGoal choice position goal monster)
      (unplanned grid pops goal position) := by
  have noCached : ¬(cachedPathStep grid position goal monster).1.isSome = true := by
    rw [uncached]
    simp
  rw [stepTowardGoal]
  dsimp only
  rw [if_neg noCached, oneStepTowardGoal_eq]
  generalize (cachedPathStep grid position goal monster).2 = current
  cases chosen : greedyTile grid position goal with
  | none =>
      rw [unplanned_of_none chosen]
      exact follows_freshPathStep searched inWorld chosen
  | some next =>
      rw [unplanned_of_some chosen]
      exact ⟨rfl, (greedyTile_spec chosen).1, itinerary_clearPath next current⟩

/-- `TryAdvanceTowardGoal` chooses the first tile of the itinerary, and the
rest is the itinerary from there. -/
theorem follows_itinerary (searched : choice.findPath = foundPath grid pops)
    (inWorld : isValidWorldPosition position.1 position.2 = true) :
    Follows grid pops goal position (stepTowardGoal choice position goal monster)
      ((ofMonster position monster).itinerary grid pops goal) := by
  cases remembers : (ofMonster position monster).remembered goal with
  | nil =>
      have ahead : (ofMonster position monster).itinerary grid pops goal =
          unplanned grid pops goal position := by
        rw [itinerary, remembers]
        rfl
      rw [ahead]
      exact follows_unplanned searched inWorld (cachedPathStep_of_nil remembers)
  | cons next rest =>
      by_cases step : isWalkableStep grid position next = true
      · have ahead : (ofMonster position monster).itinerary grid pops goal =
            next :: planned grid pops goal next rest := by
          rw [itinerary, remembers]
          exact planned_of_step step
        have taken : stepTowardGoal choice position goal monster =
            (some next, { monster with path := rest.reverse }) := by
          rw [stepTowardGoal, cachedPathStep_of_step remembers step]
          rfl
        have left : (ofMonster next { monster with path := rest.reverse }).remembered goal =
            rest := by
          rw [remembered]
          exact (if_pos (path_of_remembered remembers).1).trans (List.reverse_reverse rest)
        rw [ahead, taken]
        refine ⟨rfl, step, ?_⟩
        rw [itinerary, left]
        rfl
      · have ahead : (ofMonster position monster).itinerary grid pops goal =
            unplanned grid pops goal position := by
          rw [itinerary, remembers]
          exact planned_of_blocked step
        rw [ahead]
        exact follows_unplanned searched inWorld (cachedPathStep_of_blocked remembers step)

end Walker

end Mmorpg
