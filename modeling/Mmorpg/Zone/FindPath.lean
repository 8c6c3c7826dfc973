import Mathlib.Data.Finset.Prod
import Mathlib.Data.Int.Basic
import Mmorpg.Search.AStar
import Mmorpg.Zone.Collision

/-!
# The path search of the monsters

`FindPath` of `AStar.cpp`, for any tile table and any order in which the
priority queue hands out nodes of equal cost.
-/

namespace Mmorpg

open Search

/-- The tuples of `dx` and `dy`. -/
def directions : List (Int × Int) :=
  [(0, -1), (0, 1), (-1, 0), (1, 0)]

/-- The Manhattan distance. -/
def heuristic (x1 y1 x2 y2 : Int) : Nat :=
  (x1 - x2).natAbs + (y1 - y2).natAbs

/-- The tiles the inner loop does not skip. -/
def openNeighbors (grid : CollisionGrid) (current : Int × Int) : List (Int × Int) :=
  (directions.map fun direction => (current.1 + direction.1, current.2 + direction.2)).filter
    fun next =>
      ¬(next.1 < 0 ∨ next.1 ≥ wWidth ∨ next.2 < 0 ∨ next.2 ≥ wHeight) ∧
        ¬isCollision grid next.1 next.2

/-- A path element carries no costs. -/
def pathNode (tile : Int × Int) : Node (Int × Int) :=
  ⟨tile, 0, 0, 0⟩

/-- `FindPath`; both of its loops run on `fuel`, and `none` means out of fuel.
`pops` may break ties another way at every pop. -/
def findPath (grid : CollisionGrid) (pops : Nat → PopOrder (Int × Int)) (fuel : Nat)
    (start goal : Int × Int) : Option (List (Node (Int × Int))) :=
  if start.1 = goal.1 ∧ start.2 = goal.2 then some []
  else
    let estimate := fun tile : Int × Int => heuristic tile.1 tile.2 goal.1 goal.2
    (search (openNeighbors grid) estimate pops start goal fuel fuel
      (State.initial estimate start)).map (·.map pathNode)

/-! ## Routes over free tiles -/

/-- The tiles share an edge. -/
def FourNeighbours (tile other : Int × Int) : Prop :=
  (tile.1 - other.1).natAbs + (tile.2 - other.2).natAbs = 1

/-- Steps from `start` to `goal` over adjacent free tiles of the world. -/
structure Route (grid : CollisionGrid) (start goal : Int × Int) (tiles : List (Int × Int)) :
    Prop where
  adjacent : (start :: tiles).IsChain FourNeighbours
  arrives : (start :: tiles).getLast? = some goal
  inWorld : ∀ tile ∈ tiles, ZoneLayout.isValidWorldPosition tile.1 tile.2 = true
  free : ∀ tile ∈ tiles, isCollision grid tile.1 tile.2 = false

/-- The four directions lead to the four neighbours. -/
theorem mem_directions_iff {tile other : Int × Int} :
    other ∈ (directions.map fun direction => (tile.1 + direction.1, tile.2 + direction.2)) ↔
      FourNeighbours tile other := by
  rcases tile with ⟨x, y⟩
  rcases other with ⟨nextX, nextY⟩
  simp only [directions, List.map_cons, List.map_nil, List.mem_cons, List.not_mem_nil, or_false,
    Prod.mk.injEq, FourNeighbours]
  omega

/-- The loop over the directions follows exactly the steps of a route. -/
theorem mem_openNeighbors {grid : CollisionGrid} {tile next : Int × Int} :
    next ∈ openNeighbors grid tile ↔ FourNeighbours tile next ∧
      ZoneLayout.isValidWorldPosition next.1 next.2 = true ∧
      isCollision grid next.1 next.2 = false := by
  rw [openNeighbors, List.mem_filter, mem_directions_iff]
  simp only [ZoneLayout.isValidWorldPosition, decide_eq_true_eq, not_or, not_lt, ge_iff_le, not_le,
    Bool.not_eq_true]

theorem length_openNeighbors_le (grid : CollisionGrid) (tile : Int × Int) :
    (openNeighbors grid tile).length ≤ 4 := by
  calc
    (openNeighbors grid tile).length ≤ _ := List.length_filter_le _ _
    _ = directions.length := List.length_map _
    _ = 4 := rfl

/-- A step changes the distance to the goal by one at most. -/
theorem heuristic_consistent {grid : CollisionGrid} {goal tile next : Int × Int}
    (step : next ∈ openNeighbors grid tile) :
    heuristic tile.1 tile.2 goal.1 goal.2 ≤ heuristic next.1 next.2 goal.1 goal.2 + 1 := by
  have adjacent := (mem_openNeighbors.mp step).1
  simp only [FourNeighbours] at adjacent
  simp only [heuristic]
  omega

/-- All tiles of the world. -/
def worldTiles : Finset (Int × Int) :=
  (Finset.range wWidth.toNat ×ˢ Finset.range wHeight.toNat).map
    ⟨Prod.map Int.ofNat Int.ofNat, Int.ofNat_injective.prodMap Int.ofNat_injective⟩

theorem mem_worldTiles {tile : Int × Int} :
    tile ∈ worldTiles ↔ ZoneLayout.isValidWorldPosition tile.1 tile.2 = true := by
  rcases tile with ⟨x, y⟩
  simp only [worldTiles, Finset.mem_map, Finset.mem_product, Finset.mem_range,
    Function.Embedding.coeFn_mk, Prod.exists, Prod.map_apply, Prod.mk.injEq,
    ZoneLayout.isValidWorldPosition, decide_eq_true_eq, ge_iff_le, wWidth, wHeight]
  constructor
  · rintro ⟨a, b, ⟨inWidth, inHeight⟩, rfl, rfl⟩
    simp only [Int.ofNat_eq_natCast]
    omega
  · intro valid
    exact ⟨x.toNat, y.toNat, by omega, by simp only [Int.ofNat_eq_natCast]; omega,
      by simp only [Int.ofNat_eq_natCast]; omega⟩

theorem card_worldTiles : worldTiles.card = 4000000 := by
  rw [worldTiles, Finset.card_map, Finset.card_product, Finset.card_range, Finset.card_range]
  rfl

-- four million tiles: never to be enumerated
attribute [irreducible] worldTiles

section Bridge

variable {grid : CollisionGrid} {start goal : Int × Int}

/-- A route is a walk of the search. -/
theorem Route.walk {tiles : List (Int × Int)} (route : Route grid start goal tiles) :
    Walk (openNeighbors grid) start goal tiles.length := by
  have linked : (start :: tiles).IsChain
      fun earlier later => later ∈ openNeighbors grid earlier := by
    refine route.adjacent.imp_of_mem_tail_imp fun tile next _ among adjacent => ?_
    exact mem_openNeighbors.mpr ⟨adjacent, route.inWorld next among, route.free next among⟩
  have last : (start :: tiles).getLast (List.cons_ne_nil _ _) = goal :=
    (List.getLast_eq_iff_getLast?_eq_some (List.cons_ne_nil start tiles)).mpr route.arrives
  exact last ▸ Walk.of_chain linked

/-- What leads back from the goal is a route when it is turned round. -/
theorem Route.of_leadsBack {path : List (Int × Int)}
    (back : LeadsBack (openNeighbors grid) start goal path) :
    Route grid start goal path.reverse := by
  have turned : start :: path.reverse = (path ++ [start]).reverse := by
    rw [List.reverse_append, List.reverse_singleton, List.singleton_append]
  have linked : (start :: path.reverse).IsChain
      fun earlier later => later ∈ openNeighbors grid earlier := by
    rw [turned, List.isChain_reverse]
    exact back.linked
  have steps : ∀ tile ∈ path.reverse, ∃ earlier, tile ∈ openNeighbors grid earlier :=
    fun _ among => exists_earlier_of_chain linked among
  exact
    { adjacent := linked.imp fun _ _ step => (mem_openNeighbors.mp step).1
      arrives := by rw [turned, List.getLast?_reverse, back.first]
      inWorld := fun tile among =>
        let ⟨_, step⟩ := steps tile among
        (mem_openNeighbors.mp step).2.1
      free := fun tile among =>
        let ⟨_, step⟩ := steps tile among
        (mem_openNeighbors.mp step).2.2 }

end Bridge

/-- Between two tiles the search finds a shortest route, or there is none. -/
theorem findPath_apart {grid : CollisionGrid} (pops : Nat → PopOrder (Int × Int))
    {start goal : Int × Int} (different : start ≠ goal)
    (startInWorld : ZoneLayout.isValidWorldPosition start.1 start.2 = true)
    {fuel : Nat} (enough : 20000002 ≤ fuel) :
    ∃ tiles, findPath grid pops fuel start goal = some (tiles.map pathNode) ∧
      (tiles = [] ∧ (¬∃ route, Route grid start goal route) ∨
        tiles ≠ [] ∧ tiles.head? = some goal ∧ Route grid start goal tiles.reverse ∧
          ∀ route, Route grid start goal route → tiles.length ≤ route.length) := by
  have apart : ¬(start.1 = goal.1 ∧ start.2 = goal.2) := fun both =>
    different (Prod.ext both.1 both.2)
  have consistent : ∀ tile, ∀ next ∈ openNeighbors grid tile,
      heuristic tile.1 tile.2 goal.1 goal.2 ≤ heuristic next.1 next.2 goal.1 goal.2 + 1 :=
    fun _ _ step => heuristic_consistent step
  have bounded : ∀ tile, ∀ next ∈ openNeighbors grid tile, next ∈ worldTiles := by
    intro tile next step
    rw [mem_worldTiles]
    exact (mem_openNeighbors.mp step).2.1
  have inRegion : start ∈ worldTiles := by rwa [mem_worldTiles]
  have wayBack : worldTiles.card ≤ fuel := card_worldTiles.le.trans (by omega)
  have turns : worldTiles.card * (4 + 1) + 1 < fuel := by
    rw [card_worldTiles]
    omega
  obtain ⟨tiles, found, answer⟩ := search_answer consistent bounded (length_openNeighbors_le grid)
    pops inRegion different wayBack turns
  have answered : findPath grid pops fuel start goal = some (tiles.map pathNode) := by
    rw [findPath, if_neg apart]
    exact congrArg (Option.map _) found
  refine ⟨tiles, answered, ?_⟩
  rcases answer with ⟨rfl, unreachable⟩ | ⟨nonempty, back, shortest⟩
  · exact Or.inl ⟨rfl, fun ⟨route, leads⟩ => unreachable _ leads.walk⟩
  · refine Or.inr ⟨nonempty, ?_, Route.of_leadsBack back, fun other leads => shortest _ leads.walk⟩
    have first := back.first
    rwa [List.head?_append_of_ne_nil _ nonempty] at first

/-- Every call ends; it answers with the tiles of a shortest route from the goal
back to the start, or with nothing when there is no step to take. -/
theorem findPath_shortest (grid : CollisionGrid) (pops : Nat → PopOrder (Int × Int))
    (start goal : Int × Int)
    (startInWorld : ZoneLayout.isValidWorldPosition start.1 start.2 = true)
    (fuel : Nat) (enough : 20000002 ≤ fuel) :
    ∃ tiles, findPath grid pops fuel start goal = some (tiles.map pathNode) ∧
      (tiles = [] ↔ start = goal ∨ ¬∃ route, Route grid start goal route) ∧
      (tiles ≠ [] → tiles.head? = some goal ∧ Route grid start goal tiles.reverse ∧
        ∀ route, Route grid start goal route → tiles.length ≤ route.length) := by
  by_cases same : start = goal
  · subst same
    exact ⟨[], if_pos ⟨rfl, rfl⟩, ⟨fun _ => Or.inl rfl, fun _ => rfl⟩,
      fun nonempty => absurd rfl nonempty⟩
  · obtain ⟨tiles, answered, answer⟩ := findPath_apart pops same startInWorld enough
    refine ⟨tiles, answered, ?_⟩
    rcases answer with ⟨rfl, unreachable⟩ | ⟨nonempty, head, route, shortest⟩
    · exact ⟨⟨fun _ => Or.inr unreachable, fun _ => rfl⟩, fun nonempty => absurd rfl nonempty⟩
    · refine ⟨⟨fun empty => absurd empty nonempty, ?_⟩, fun _ => ⟨head, route, shortest⟩⟩
      rintro (equal | none)
      · exact absurd equal same
      · exact absurd ⟨_, route⟩ none

/-- Around a blocked tile next to the corner. -/
theorem findPath_shortest_corner :
    ∃ tiles, findPath initCollisionTile (fun _ => PopOrder.sorted) 20000002 (0, 0) (2, 0)
        = some (tiles.map pathNode) ∧
      (tiles = [] ↔ ((0, 0) : Int × Int) = (2, 0) ∨
        ¬∃ route, Route initCollisionTile (0, 0) (2, 0) route) ∧
      (tiles ≠ [] → tiles.head? = some (2, 0) ∧
        Route initCollisionTile (0, 0) (2, 0) tiles.reverse ∧
        ∀ route, Route initCollisionTile (0, 0) (2, 0) route → tiles.length ≤ route.length) :=
  findPath_shortest initCollisionTile (fun _ => PopOrder.sorted) (0, 0) (2, 0) (by decide)
    20000002 (Nat.le_refl _)

example : findPath initCollisionTile (fun _ => PopOrder.sorted) 30 (0, 0) (2, 0) =
    some [pathNode (2, 0), pathNode (1, 0)] := by
  decide

end Mmorpg
